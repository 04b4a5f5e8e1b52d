import TagEdit.Report

/-!
# What reaches a stream

A reporter attempts all its writes, whatever became of those before. So a stream gets, in order,
the texts of those writes to it that go through, and a reporter that is quiet attempts the same
writes to the error stream as one that is not.
-/

namespace TagEdit.Report

/-! ## Deliveries -/

namespace Delivery

/-- What has reached one of the streams. -/
def on (d : Delivery) : Stream → Text
  | .out => d.out
  | .err => d.err

@[simp] theorem on_append (d d' : Delivery) (s : Stream) : (d ++ d').on s = d.on s ++ d'.on s := by
  cases s <;> rfl

theorem append_empty (d : Delivery) : d ++ {} = d := by
  show Delivery.append d {} = d
  simp [Delivery.append]

theorem empty_append (d : Delivery) : {} ++ d = d := by
  show Delivery.append {} d = d
  simp [Delivery.append]

theorem append_assoc (a b c : Delivery) : a ++ b ++ c = a ++ (b ++ c) := by
  show Delivery.append (Delivery.append a b) c = Delivery.append a (Delivery.append b c)
  simp [Delivery.append, Nat.add_assoc]

end Delivery

/-! ## Writes -/

/-- The texts of the writes to one stream. -/
def textsOn (s : Stream) (ws : List (Stream × Text)) : List Text :=
  (ws.filter (·.1 == s)).map (·.2)

/-- What becomes of the writes to one stream, of which the first may be attempted after some writes
to either stream. -/
def fatesFrom (sink : Sink) (s : Stream) (attempts : Nat) : List (Stream × Text) → List Bool
  | [] => []
  | w :: ws =>
    if w.1 == s then sink attempts s :: fatesFrom sink s (attempts + 1) ws
    else fatesFrom sink s (attempts + 1) ws

/-- What becomes of all writes to one stream that a reporter attempts for some calls. -/
def fates (quiet : Bool) (sink : Sink) (s : Stream) (calls : List Call) : List Bool :=
  fatesFrom sink s 0 (calls.flatMap (·.writes quiet))

/-- The writes to one stream fare alike in both reporters, the first like the first and so on, as
far as both attempt as many. -/
def FareAlike (s : Stream) (calls : List Call) (quiet : Bool) (sink : Sink) (quiet' : Bool)
    (sink' : Sink) : Prop :=
  ∀ (k : Nat) (ok ok' : Bool), (fates quiet sink s calls)[k]? = some ok →
    (fates quiet' sink' s calls)[k]? = some ok' → ok' = ok

/-- The texts that go through. -/
def passed (texts : List Text) (fates : List Bool) : Text :=
  ((texts.zip fates).filter (·.2)).flatMap (·.1)

theorem length_fatesFrom (sink : Sink) (s : Stream) (attempts : Nat) (ws : List (Stream × Text)) :
    (fatesFrom sink s attempts ws).length = (textsOn s ws).length := by
  induction ws generalizing attempts with
  | nil => rfl
  | cons w ws ih =>
    unfold fatesFrom
    by_cases hw : (w.1 == s) = true
    · rw [if_pos hw, List.length_cons, ih]
      simp [textsOn, hw]
    · rw [if_neg hw, ih]
      simp [textsOn, hw]

/-- What becomes of a write to a stream is up to the stream. -/
theorem exists_of_mem_fatesFrom {sink : Sink} {s : Stream} {attempts : Nat}
    {ws : List (Stream × Text)} {ok : Bool} (h : ok ∈ fatesFrom sink s attempts ws) :
    ∃ n, ok = sink n s := by
  induction ws generalizing attempts with
  | nil => cases h
  | cons w ws ih =>
    unfold fatesFrom at h
    split at h
    · rcases List.mem_cons.mp h with rfl | h
      · exact ⟨_, rfl⟩
      · exact ih h
    · exact ih h

namespace Reporter

variable {sink : Sink}

theorem write_quiet (r : Reporter) (w : Stream × Text) : (r.write sink w).1.quiet = r.quiet := by
  unfold write
  dsimp only
  split <;> rfl

theorem write_attempts (r : Reporter) (w : Stream × Text) :
    (r.write sink w).1.attempts = r.attempts + 1 := by
  unfold write
  dsimp only
  split <;> rfl

theorem write_on (r : Reporter) (w : Stream × Text) (s : Stream) :
    (r.write sink w).2.on s = if (w.1 == s) = true ∧ sink r.attempts s = true then w.2 else [] := by
  obtain ⟨stream, text⟩ := w
  unfold write
  dsimp only
  by_cases hok : sink r.attempts stream = true
  · rw [if_pos hok]
    cases stream <;> cases s <;> simp [Delivery.on, hok]
  · rw [if_neg hok]
    cases stream <;> cases s <;> simp [Delivery.on, hok]

theorem writeAll_quiet (r : Reporter) (ws : List (Stream × Text)) :
    (r.writeAll sink ws).1.quiet = r.quiet := by
  induction ws generalizing r with
  | nil => rfl
  | cons w ws ih => exact (ih _).trans (write_quiet r w)

theorem writeAll_append (r : Reporter) (ws ws' : List (Stream × Text)) :
    r.writeAll sink (ws ++ ws') =
      (((r.writeAll sink ws).1.writeAll sink ws').1,
        (r.writeAll sink ws).2 ++ ((r.writeAll sink ws).1.writeAll sink ws').2) := by
  induction ws generalizing r with
  | nil => rw [List.nil_append, writeAll, Delivery.empty_append]
  | cons w ws ih =>
    simp only [List.cons_append, writeAll, ih, Delivery.append_assoc]

/-- A stream gets the texts of the writes to it that go through. -/
theorem writeAll_on (r : Reporter) (ws : List (Stream × Text)) (s : Stream) :
    (r.writeAll sink ws).2.on s = passed (textsOn s ws) (fatesFrom sink s r.attempts ws) := by
  induction ws generalizing r with
  | nil => cases s <;> rfl
  | cons w ws ih =>
    have hnext : (r.writeAll sink (w :: ws)).2 =
        (r.write sink w).2 ++ ((r.write sink w).1.writeAll sink ws).2 := rfl
    rw [hnext, Delivery.on_append, write_on, ih, write_attempts]
    by_cases hs : (w.1 == s) = true
    · cases hok : sink r.attempts s <;> simp [textsOn, fatesFrom, passed, hs, hok]
    · simp [textsOn, fatesFrom, hs]

/-- Calls that are carried out in order make one sequence of writes. -/
theorem foldl_tellAll (r : Reporter) (calls : List Call) (d : Delivery) :
    (r.tellAll sink calls).foldl (· ++ ·) d =
      d ++ (r.writeAll sink (calls.flatMap (·.writes r.quiet))).2 := by
  induction calls generalizing r d with
  | nil => exact (Delivery.append_empty d).symm
  | cons c calls ih =>
    have hnext : r.tellAll sink (c :: calls) =
        (r.tell sink c).2 :: (r.tell sink c).1.tellAll sink calls := rfl
    have hquiet : (r.tell sink c).1.quiet = r.quiet := writeAll_quiet r _
    rw [hnext, List.foldl_cons, ih, hquiet, List.flatMap_cons, writeAll_append,
      Delivery.append_assoc]
    rfl

end Reporter

/-! ## Calls -/

/-- What a fresh reporter delivers to a stream. -/
theorem deliver_on (quiet : Bool) (sink : Sink) (calls : List Call) (s : Stream) :
    (deliver quiet sink calls).on s =
      passed (textsOn s (calls.flatMap (·.writes quiet))) (fates quiet sink s calls) := by
  unfold deliver
  rw [Reporter.foldl_tellAll, Delivery.empty_append, Reporter.writeAll_on]
  rfl

/-- What is written to the error stream is never muted. -/
theorem textsOn_err (quiet : Bool) (calls : List Call) :
    textsOn .err (calls.flatMap (·.writes quiet)) = textsOn .err (calls.flatMap Call.lines) := by
  have hkeep : ∀ w : Stream × Text, ((w.1 == .err) && !(quiet && w.1 == .out)) = (w.1 == .err) := by
    rintro ⟨s, text⟩
    cases s <;> simp
  unfold textsOn
  rw [List.filter_flatMap, List.filter_flatMap]
  simp only [Call.writes, List.filter_filter, hkeep]

/-- Reporters whose writes fare alike get the same through, if they attempt as many. -/
theorem fates_eq_of_fareAlike {s : Stream} {calls : List Call} {quiet quiet' : Bool}
    {sink sink' : Sink} (h : FareAlike s calls quiet sink quiet' sink')
    (htexts : textsOn s (calls.flatMap (·.writes quiet')) =
      textsOn s (calls.flatMap (·.writes quiet))) :
    fates quiet' sink' s calls = fates quiet sink s calls := by
  have hlength : (fates quiet' sink' s calls).length = (fates quiet sink s calls).length := by
    unfold fates
    rw [length_fatesFrom, length_fatesFrom, htexts]
  refine List.ext_getElem hlength fun k hk' hk => ?_
  exact h k _ _ (List.getElem?_eq_getElem hk) (List.getElem?_eq_getElem hk')

theorem deliver_on_congr {s : Stream} {calls : List Call} {quiet quiet' : Bool}
    {sink sink' : Sink} (h : FareAlike s calls quiet sink quiet' sink')
    (htexts : textsOn s (calls.flatMap (·.writes quiet')) =
      textsOn s (calls.flatMap (·.writes quiet))) :
    (deliver quiet' sink' calls).on s = (deliver quiet sink calls).on s := by
  rw [deliver_on, deliver_on, htexts, fates_eq_of_fareAlike h htexts]

/-- A stream that takes all writes or none treats all reporters alike. -/
theorem fareAlike_of_steady {s : Stream} {sink sink' : Sink}
    (h : ∀ n n', sink' n' s = sink n s) (calls : List Call) (quiet quiet' : Bool) :
    FareAlike s calls quiet sink quiet' sink' := by
  intro k ok ok' hok hok'
  obtain ⟨n, rfl⟩ := exists_of_mem_fatesFrom (List.mem_of_getElem? hok)
  obtain ⟨n', rfl⟩ := exists_of_mem_fatesFrom (List.mem_of_getElem? hok')
  exact h n n'

end TagEdit.Report
