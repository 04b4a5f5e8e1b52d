import TagEdit.Proofs.Encoding
import TagEdit.Proofs.ValueOrder

/-!
# The grammar of command lines

`Reads args items`: the arguments `args` say what `items` lists, in their order. `Written`
has one constructor for each spelling of an item, and `Letters` one for each way to go on behind a
single hyphen. The reader is not mentioned here; beside the grammar stand the equations by which it
takes in each spelling.
-/

namespace TagEdit

open TagEdit.Path

/-! ## Names of options -/

def Switch.name : Switch → String
  | .dryRun => "dry-run"
  | .quiet => "quiet"
  | .updateLength => "update-length"
  | .check => "check"
  | .noCheck => "no-check"
  | .debug => "debug"
  | .noDebug => "no-debug"

namespace CliOption

def name : CliOption → String
  | .field (.expression f) => f.name
  | .field (.literal f) => "set-" ++ f.name
  | .ascii => "ascii"
  | .switch s => s.name
  | .help => "help"
  | .version => "version"

def letter? : CliOption → Option Char
  | .field (.expression f) => some f.letters.1
  | .field (.literal f) => some f.letters.2
  | .switch .updateLength => some 'u'
  | .switch .dryRun => some 'n'
  | .switch .quiet => some 'q'
  | .help => some 'h'
  | .version => some 'V'
  | _ => none

/-- The argument that names an option. -/
def dashed (o : CliOption) : Bytes := 45 :: 45 :: Utf8.ofString o.name

end CliOption

/-! ## Items and their spellings -/

/-- What a part of a command line says. -/
inductive Occurrence where
  | given (g : Given)
  | switch (s : Switch)
  | file (p : FilePath)
  deriving DecidableEq, Repr

namespace Occurrence

def given? : Occurrence → Option Given
  | .given g => some g
  | _ => none

/-- The fragment that an item adds to the chain of a field. -/
def fragment? (f : Field) (item : Occurrence) : Option Fragment := item.given?.bind (·.fragment? f)

end Occurrence

/-- An argument that is no option: it does not begin with a hyphen, or is nothing else. -/
def IsPlain (arg : Bytes) : Prop := arg.head? = some 45 → arg = [45]

instance (arg : Bytes) : Decidable (IsPlain arg) := inferInstanceAs (Decidable (_ → _))

/-- What stands behind a single hyphen, with the arguments that belong to it. -/
inductive Letters : Bytes → List Bytes → List Occurrence → Prop where
  | nil : Letters [] [] []
  | switch {s : Switch} {c : Char} {bs : Bytes} {next : List Bytes} {items : List Occurrence} :
      (CliOption.switch s).letter? = some c → Letters bs next items →
      Letters (Utf8.byte c :: bs) next (.switch s :: items)
  | next {o : FieldOption} {c : Char} {v : Bytes} {value : Text} :
      (CliOption.field o).letter? = some c → IsPlain v → Utf8.decode? v = some value →
      Letters [Utf8.byte c] [v] [.given (.text o value)]
  | attached {o : FieldOption} {c : Char} {v : Bytes} {value : Text} :
      (CliOption.field o).letter? = some c → v ≠ [] → v.head? ≠ some 61 →
      Utf8.decode? v = some value → Letters (Utf8.byte c :: v) [] [.given (.text o value)]
  | equals {o : FieldOption} {c : Char} {v : Bytes} {value : Text} :
      (CliOption.field o).letter? = some c → Utf8.decode? v = some value →
      Letters (Utf8.byte c :: 61 :: v) [] [.given (.text o value)]

/-- Arguments that make up one item, or the items of one group of letters. -/
inductive Written : List Bytes → List Occurrence → Prop where
  | letters {bs : Bytes} {next : List Bytes} {items : List Occurrence} :
      bs ≠ [] → Letters bs next items → Written ((45 :: bs) :: next) items
  | next {o : FieldOption} {v : Bytes} {value : Text} :
      IsPlain v → Utf8.decode? v = some value →
      Written [(CliOption.field o).dashed, v] [.given (.text o value)]
  | equals {o : FieldOption} {v : Bytes} {value : Text} :
      Utf8.decode? v = some value →
      Written [(CliOption.field o).dashed ++ 61 :: v] [.given (.text o value)]
  | ascii : Written [CliOption.ascii.dashed] [.given (.ascii true)]
  | asciiEquals (on : Bool) :
      Written [CliOption.ascii.dashed ++ 61 :: Utf8.ofString (toString on)] [.given (.ascii on)]
  | switch (s : Switch) : Written [(CliOption.switch s).dashed] [.switch s]
  | file {p : FilePath} : IsPlain p → p ≠ [] → Written [p] [.file p]

/-- Arguments in a row; after two hyphens all of them are files. -/
inductive Reads : List Bytes → List Occurrence → Prop where
  | nil : Reads [] []
  | written {w args : List Bytes} {items later : List Occurrence} :
      Written w items → Reads args later → Reads (w ++ args) (items ++ later)
  | files {ps : List FilePath} : (∀ p ∈ ps, p ≠ []) → Reads ([45, 45] :: ps) (ps.map .file)

/-! ## Names are read back -/

namespace CliOption

theorem ofName?_name (o : CliOption) : ofName? o.name.toList = some o := by
  rcases o with (f | f) | _ | s | _ | _
  · cases f <;> decide
  · cases f <;> decide
  · decide
  · cases s <;> decide
  · decide
  · decide

theorem eq_name_of_ofName? {t : Text} {o : CliOption} (h : ofName? t = some o) :
    t = o.name.toList := by
  unfold ofName? at h
  suffices hname : String.ofList t = o.name by rw [← hname, String.toList_ofList]
  split at h
  case h_11 s _ _ _ _ _ _ _ _ _ _ =>
    split at h
    · rename_i f hf
      cases h
      have hname := List.find?_some (p := fun f : Field => f.name == String.ofList t) hf
      exact (eq_of_beq hname).symm
    · obtain ⟨f, hf, rfl⟩ := Option.map_eq_some_iff.mp h
      have hname := List.find?_some hf
      exact (eq_of_beq hname).symm
  all_goals
    rename_i hs
    cases h
    exact hs

theorem ofLetter?_letter {o : CliOption} {c : Char} (h : o.letter? = some c) :
    ofLetter? c = some o := by
  rcases o with (f | f) | _ | s | _ | _
  · cases h
    cases f <;> decide
  · cases h
    cases f <;> decide
  · cases h
  · cases s <;> cases h <;> decide
  · cases h
    decide
  · cases h
    decide

theorem letter_of_ofLetter? {c : Char} {o : CliOption} (h : ofLetter? c = some o) :
    o.letter? = some c := by
  unfold ofLetter? at h
  split at h
  case h_6 =>
    split at h
    · rename_i f hf
      cases h
      have hletter := List.find?_some hf
      exact congrArg some (eq_of_beq hletter)
    · obtain ⟨f, hf, rfl⟩ := Option.map_eq_some_iff.mp h
      have hletter := List.find?_some hf
      exact congrArg some (eq_of_beq hletter)
  all_goals
    cases h
    rfl

theorem isAscii_letter {o : CliOption} {c : Char} (h : o.letter? = some c) :
    Utf8.IsAscii c ∧ c ≠ '-' := by
  rcases o with (f | f) | _ | s | _ | _
  · cases h
    cases f <;> decide
  · cases h
    cases f <;> decide
  · cases h
  · cases s <;> cases h <;> decide
  · cases h
    decide
  · cases h
    decide

/-- The letter of an option is no hyphen. -/
theorem byte_letter_ne {o : CliOption} {c : Char} (h : o.letter? = some c) : Utf8.byte c ≠ 45 := by
  obtain ⟨hascii, hne⟩ := isAscii_letter h
  exact fun hbyte => hne (Utf8.byte_inj hascii (by decide) hbyte)

theorem isAscii_name (o : CliOption) :
    o.name.toList ≠ [] ∧ ∀ c ∈ o.name.toList, Utf8.IsAscii c ∧ c ≠ '=' := by
  have hall : o.name.toList ≠ [] ∧
      (o.name.toList.all fun c => decide (Utf8.IsAscii c ∧ c ≠ '=')) = true := by
    rcases o with (f | f) | _ | s | _ | _
    · cases f <;> decide
    · cases f <;> decide
    · decide
    · cases s <;> decide
    · decide
    · decide
  exact ⟨hall.1, fun c hc => of_decide_eq_true (List.all_eq_true.mp hall.2 c hc)⟩

end CliOption

/-! ## Spellings are taken in -/

namespace Reading

/-- The part behind the name of an option: nothing, or an equals sign and a value. -/
def suffix : Option Bytes → Bytes
  | none => []
  | some v => 61 :: v

theorem splitEquals_append_suffix {name : Bytes} (h : (61 : UInt8) ∉ name) (value : Option Bytes) :
    splitEquals (name ++ suffix value) = (name, value) := by
  have hpos : ∀ b ∈ name, (b != 61) = true := fun b hb => bne_iff_ne.mpr fun hb' => h (hb' ▸ hb)
  unfold splitEquals
  rw [List.dropWhile_append_of_pos hpos, List.takeWhile_append_of_pos hpos]
  cases value with
  | none => simp [suffix]
  | some v => simp [suffix]

theorem eq_of_splitEquals {bs name : Bytes} {value : Option Bytes}
    (h : splitEquals bs = (name, value)) : bs = name ++ suffix value := by
  unfold splitEquals at h
  have htd := List.takeWhile_append_dropWhile (p := (· != (61 : UInt8))) (l := bs)
  have hhead := List.head?_dropWhile_not (· != (61 : UInt8)) bs
  split at h
  · cases h
    exact (List.append_nil _).symm
  · rename_i b v hdrop
    cases h
    rw [hdrop] at htd hhead
    obtain rfl : b = 61 := by simpa using hhead
    exact htd.symm

variable {r r' : Reading}

/-- The reader behind two hyphens takes in what is attached to the name of an option. -/
def takeNamed (r : Reading) (o : CliOption) : Option Bytes → Except UsageError Reading
  | none => r.takeOption o
  | some v => r.takeAttached v o

theorem takeLong_name (o : CliOption) (value : Option Bytes) :
    r.takeLong (Utf8.ofString o.name ++ suffix value) = r.takeNamed o value := by
  obtain ⟨-, hascii⟩ := o.isAscii_name
  have hequals : (61 : UInt8) ∉ Utf8.ofString o.name := by
    rw [Utf8.ofString, Utf8.encode_eq_map fun c hc => (hascii c hc).1]
    rintro hmem
    obtain ⟨c, hc, hbyte⟩ := List.mem_map.mp hmem
    exact (hascii c hc).2 (Utf8.byte_inj (hascii c hc).1 (by decide) hbyte)
  rw [takeLong, splitEquals_append_suffix hequals]
  simp only [Utf8.ofString, Utf8.decode?_encode fun c hc => (hascii c hc).1, Option.bind_some,
    CliOption.ofName?_name]
  cases value <;> rfl

theorem exists_of_takeLong {bs : Bytes} (h : r.takeLong bs = .ok r') :
    ∃ o value, bs = Utf8.ofString o.name ++ suffix value ∧ r.takeNamed o value = .ok r' := by
  rcases hsplit : splitEquals bs with ⟨name, value⟩
  rw [takeLong, hsplit] at h
  simp only at h
  split at h
  · cases h
  · rename_i o ho
    obtain ⟨t, ht, ho⟩ := Option.bind_eq_some_iff.mp ho
    have hname : name = Utf8.ofString o.name := by
      obtain rfl := CliOption.eq_name_of_ofName? ho
      exact Utf8.eq_encode_of_decode? (fun c hc => (o.isAscii_name.2 c hc).1) ht
    refine ⟨o, value, hname ▸ eq_of_splitEquals hsplit, ?_⟩
    cases value <;> exact h

/-- The reader behind a single hyphen takes in what follows the letter of an option with a value. -/
def takeRest (r : Reading) (o : FieldOption) : Bytes → Except UsageError Reading
  | [] => r.takeOption (.field o)
  | 61 :: value => r.takeAttached value (.field o)
  | value => r.takeAttached value (.field o)

theorem takeLetters_field {o : FieldOption} {c : Char} (h : (CliOption.field o).letter? = some c)
    (bs : Bytes) : r.takeLetters (Utf8.byte c :: bs) = r.takeRest o bs := by
  rw [takeLetters]
  simp only [Utf8.readPiece_byte (CliOption.isAscii_letter h).1, Option.bind_some,
    CliOption.ofLetter?_letter h]
  rfl

theorem takeLetters_option {o : CliOption} {c : Char} (h : o.letter? = some c)
    (ho : ∀ p, o ≠ .field p) (bs : Bytes) :
    r.takeLetters (Utf8.byte c :: bs) = (r.takeOption o).bind (·.takeLetters bs) := by
  rw [takeLetters]
  simp only [Utf8.readPiece_byte (CliOption.isAscii_letter h).1, Option.bind_some,
    CliOption.ofLetter?_letter h]
  cases o with
  | field p => exact absurd rfl (ho p)
  | _ => rfl

/-- What stands behind a single hyphen begins with the letter of an option. -/
theorem exists_of_takeLetters {b : UInt8} {bs : Bytes} (h : r.takeLetters (b :: bs) = .ok r') :
    ∃ o c, CliOption.letter? o = some c ∧ b = Utf8.byte c := by
  rw [takeLetters] at h
  cases hpiece : (Utf8.readPiece b bs).1.bind CliOption.ofLetter? with
  | none =>
    rw [hpiece] at h
    cases h
  | some o =>
    obtain ⟨c, hc, ho⟩ := Option.bind_eq_some_iff.mp hpiece
    have hletter := CliOption.letter_of_ofLetter? ho
    exact ⟨o, c, hletter,
      (Utf8.eq_byte_of_readPiece (CliOption.isAscii_letter hletter).1 (Prod.ext hc rfl)).1⟩

/-! ## Kinds of arguments -/

theorem take_dashes (hr : r.trailing = false) :
    r.take [45, 45] = .ok { r with trailing := true } := by
  simp [take, hr]

theorem take_long (hr : r.trailing = false) (b : UInt8) (bs : Bytes) :
    r.take (45 :: 45 :: b :: bs) = r.takeLong (b :: bs) := by
  simp [take, hr]

theorem take_dashed_suffix (hr : r.trailing = false) (o : CliOption) (value : Option Bytes) :
    r.take (o.dashed ++ suffix value) = r.takeNamed o value := by
  obtain ⟨c, cs, hname⟩ := List.exists_cons_of_ne_nil o.isAscii_name.1
  have hc : Utf8.IsAscii c := (o.isAscii_name.2 c (hname ▸ List.mem_cons_self)).1
  have hbytes : Utf8.ofString o.name = Utf8.byte c :: Utf8.encode cs := by
    rw [Utf8.ofString, hname, Utf8.encode_cons hc]
  rw [← takeLong_name, CliOption.dashed, hbytes]
  exact take_long hr _ _

theorem take_dashed (hr : r.trailing = false) (o : CliOption) :
    r.take o.dashed = r.takeOption o := by
  rw [← List.append_nil o.dashed]
  exact take_dashed_suffix hr o none

theorem take_dashed_equals (hr : r.trailing = false) (o : CliOption) (v : Bytes) :
    r.take (o.dashed ++ 61 :: v) = r.takeAttached v o :=
  take_dashed_suffix hr o (some v)

theorem take_letters (hr : r.trailing = false) {b : UInt8} (hb : b ≠ 45) (bs : Bytes) :
    r.take (45 :: b :: bs) = r.takeLetters (b :: bs) := by
  simp [take, hr, hb]

theorem take_plain (hr : r.trailing = false) {arg : Bytes} (h : IsPlain arg) :
    r.take arg = r.takePlain arg := by
  unfold IsPlain at h
  rw [take, hr]
  · exact if_neg Bool.false_ne_true
  · rintro rfl
    cases h rfl
  · rintro long rfl
    cases h rfl
  · rintro b letters rfl
    cases h rfl

theorem take_trailing (hr : r.trailing = true) (arg : Bytes) : r.take arg = r.takePlain arg :=
  if_pos hr

end Reading

theorem Letters.head_ne {b : UInt8} {bs : Bytes} {next : List Bytes} {items : List Occurrence}
    (h : Letters (b :: bs) next items) : b ≠ 45 := by
  cases h with
  | switch hc _ => exact CliOption.byte_letter_ne hc
  | next hc _ _ => exact CliOption.byte_letter_ne hc
  | attached hc _ _ _ => exact CliOption.byte_letter_ne hc
  | equals hc _ => exact CliOption.byte_letter_ne hc

/-- The kinds of arguments. -/
theorem kind_of_argument (arg : Bytes) :
    arg = [45, 45] ∨ (∃ b bs, arg = 45 :: 45 :: b :: bs) ∨
      (∃ b bs, b ≠ 45 ∧ arg = 45 :: b :: bs) ∨ IsPlain arg := by
  match arg with
  | [] => exact .inr (.inr (.inr nofun))
  | [b] => exact .inr (.inr (.inr fun h => by rw [Option.some.inj h]))
  | a :: b :: bs =>
    by_cases ha : a = 45
    · subst ha
      by_cases hb : b = 45
      · subst hb
        cases bs with
        | nil => exact .inl rfl
        | cons b bs => exact .inr (.inl ⟨b, bs, rfl⟩)
      · exact .inr (.inr (.inl ⟨b, bs, hb, rfl⟩))
    · exact .inr (.inr (.inr fun h => absurd (Option.some.inj h) ha))

end TagEdit
