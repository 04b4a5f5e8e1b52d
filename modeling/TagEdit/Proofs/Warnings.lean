import TagEdit.Proofs.Delivery

/-!
# Failed writes

A reporter goes on whatever becomes of its writes: each call attempts all that it has to write, and
the numbers of its attempts follow on those of the calls before. The first write that fails is noted
with a warning in the delivery of its call, and no later one is. A quiet reporter attempts no write
to the output stream, and tells a failure as any reporter does.
-/

namespace TagEdit.Report

/-! ## Writes that fail -/

/-- Whether one of some writes fails, of which the first has a given number. -/
def fails (sink : Sink) (n : Nat) : List (Stream × Text) → Bool
  | [] => false
  | w :: ws => !sink n w.1 || fails sink (n + 1) ws

/-! ## What a reporter attempts and notes -/

theorem Delivery.warnings_append (d d' : Delivery) :
    (d ++ d').warnings = d.warnings + d'.warnings := rfl

namespace Reporter

variable {sink : Sink}

theorem write_noted (r : Reporter) (w : Stream × Text) :
    (r.write sink w).1.noted = (r.noted || !sink r.attempts w.1) := by
  unfold write
  cases hok : sink r.attempts w.1 <;> simp

theorem write_warnings (r : Reporter) (w : Stream × Text) :
    (r.write sink w).2.warnings = if !r.noted && !sink r.attempts w.1 then 1 else 0 := by
  obtain ⟨stream, text⟩ := w
  unfold write
  cases hok : sink r.attempts stream
  · cases hnoted : r.noted <;> simp
  · cases stream <;> simp

theorem writeAll_attempts (r : Reporter) (ws : List (Stream × Text)) :
    (r.writeAll sink ws).1.attempts = r.attempts + ws.length := by
  induction ws generalizing r with
  | nil => rfl
  | cons w ws ih =>
    show ((r.write sink w).1.writeAll sink ws).1.attempts = _
    rw [ih, write_attempts, List.length_cons, Nat.add_right_comm, Nat.add_assoc]

theorem writeAll_noted (r : Reporter) (ws : List (Stream × Text)) :
    (r.writeAll sink ws).1.noted = (r.noted || fails sink r.attempts ws) := by
  induction ws generalizing r with
  | nil => exact (Bool.or_false _).symm
  | cons w ws ih =>
    show ((r.write sink w).1.writeAll sink ws).1.noted = _
    rw [ih, write_noted, write_attempts, fails, Bool.or_assoc]

/-- Several writes make one warning if one of them fails and none was noted before. -/
theorem writeAll_warnings (r : Reporter) (ws : List (Stream × Text)) :
    (r.writeAll sink ws).2.warnings = if !r.noted && fails sink r.attempts ws then 1 else 0 := by
  induction ws generalizing r with
  | nil => simp [writeAll, fails]
  | cons w ws ih =>
    show ((r.write sink w).2 ++ ((r.write sink w).1.writeAll sink ws).2).warnings = _
    rw [Delivery.warnings_append, ih, write_warnings, write_noted, write_attempts, fails]
    cases r.noted <;> cases sink r.attempts w.1 <;> simp

/-- The reporter after some calls. -/
def after (r : Reporter) (sink : Sink) (calls : List Call) : Reporter :=
  calls.foldl (fun r c => (r.tell sink c).1) r

/-- Calls leave the reporter that their writes leave. -/
theorem after_eq (r : Reporter) (calls : List Call) :
    r.after sink calls = (r.writeAll sink (calls.flatMap (·.writes r.quiet))).1 := by
  induction calls generalizing r with
  | nil => rfl
  | cons c calls ih =>
    show (r.tell sink c).1.after sink calls = _
    have hquiet : (r.tell sink c).1.quiet = r.quiet := writeAll_quiet r _
    rw [ih, hquiet, List.flatMap_cons, writeAll_append]
    rfl

theorem length_tellAll (r : Reporter) (calls : List Call) :
    (r.tellAll sink calls).length = calls.length := by
  induction calls generalizing r with
  | nil => rfl
  | cons c calls ih => exact congrArg (· + 1) (ih _)

/-- A call is carried out by the reporter that the calls before have left. -/
theorem getElem?_tellAll (r : Reporter) (before : List Call) (c : Call) (rest : List Call) :
    (r.tellAll sink (before ++ c :: rest))[before.length]? =
      some ((r.after sink before).tell sink c).2 := by
  induction before generalizing r with
  | nil => rfl
  | cons b before ih => exact ih _

end Reporter

/-! ## Calls -/

/-- How many writes some calls have to attempt. -/
def writeCount (quiet : Bool) (calls : List Call) : Nat := (calls.flatMap (·.writes quiet)).length

/-- A failure is told by one write to the error stream, by a quiet reporter as by any other. -/
theorem writes_failure (quiet : Bool) (p : Path.FilePath) (message : Text) :
    (Call.failure p message).writes quiet = (Call.failure p message).lines := by
  cases quiet <;> rfl

/-- A quiet reporter attempts no write to the output stream. -/
theorem textsOn_out_quiet (c : Call) : textsOn .out (c.writes true) = [] := by
  cases c <;> rfl

/-- What a call does behind others, whatever became of their writes. -/
structure CarriedOut (quiet : Bool) (sink : Sink) (before : List Call) (c : Call)
    (d : Delivery) : Prop where
  /-- All writes are attempted. -/
  attempts : (Reporter.after { quiet } sink (before ++ [c])).attempts =
    writeCount quiet before + (c.writes quiet).length
  /-- A stream gets those that go through. -/
  reaches : ∀ s, d.on s = passed (textsOn s (c.writes quiet))
    (fatesFrom sink s (writeCount quiet before) (c.writes quiet))
  /-- There is a warning if the first write to fail is one of them. -/
  warnings : d.warnings = if !fails sink 0 (before.flatMap (·.writes quiet)) &&
    fails sink (writeCount quiet before) (c.writes quiet) then 1 else 0
  muted : quiet = true → d.out = []
  failure : ∀ p message, c = .failure p message → d.out = [] ∧
    d.err = if sink (writeCount quiet before) .err then
      "retag: ".toList ++ Path.display p ++ ": ".toList ++ message ++ ['\n'] else []

theorem carriedOut_tell (quiet : Bool) (sink : Sink) (before : List Call) (c : Call) :
    CarriedOut quiet sink before c ((Reporter.after { quiet } sink before).tell sink c).2 := by
  have hafter : Reporter.after { quiet } sink before =
      (Reporter.writeAll { quiet } sink (before.flatMap (·.writes quiet))).1 :=
    Reporter.after_eq _ before
  have hquiet : (Reporter.after { quiet } sink before).quiet = quiet := by
    rw [hafter, Reporter.writeAll_quiet]
  have hattempts : (Reporter.after { quiet } sink before).attempts = writeCount quiet before := by
    rw [hafter, Reporter.writeAll_attempts]
    exact Nat.zero_add _
  have hnoted : (Reporter.after { quiet } sink before).noted =
      fails sink 0 (before.flatMap (·.writes quiet)) := by
    rw [hafter, Reporter.writeAll_noted]
    rfl
  have hreaches : ∀ s, ((Reporter.after { quiet } sink before).tell sink c).2.on s =
      passed (textsOn s (c.writes quiet))
        (fatesFrom sink s (writeCount quiet before) (c.writes quiet)) := by
    intro s
    rw [Reporter.tell, Reporter.writeAll_on, hquiet, hattempts]
  refine ⟨?_, hreaches, ?_, ?_, ?_⟩
  · rw [Reporter.after_eq, Reporter.writeAll_attempts, List.flatMap_append, List.length_append,
      List.flatMap_singleton]
    exact Nat.zero_add _
  · rw [Reporter.tell, Reporter.writeAll_warnings, hquiet, hattempts, hnoted]
  · rintro rfl
    have hout := hreaches .out
    rwa [textsOn_out_quiet] at hout
  · rintro p message rfl
    have hout := hreaches .out
    have herr := hreaches .err
    rw [writes_failure] at hout herr
    refine ⟨hout, herr.trans ?_⟩
    cases hok : sink (writeCount quiet before) .err <;>
      simp [Call.lines, textsOn, fatesFrom, passed, hok]

/-- Whichever writes fail, a reporter warns once if any does: in the call that attempts the first
write to fail. Each call attempts all its writes and gets those through that do not fail; a quiet
reporter writes nothing to the output stream, and tells a failure as any reporter does. -/
theorem failed_writes_noted_once (quiet : Bool) (sink : Sink) (calls : List Call) :
    (deliver quiet sink calls).warnings =
        (if fails sink 0 (calls.flatMap (·.writes quiet)) then 1 else 0) ∧
      (Reporter.tellAll { quiet } sink calls).length = calls.length ∧
      ∀ before c rest, calls = before ++ c :: rest →
        ∃ d, (Reporter.tellAll { quiet } sink calls)[before.length]? = some d ∧
          CarriedOut quiet sink before c d := by
  refine ⟨?_, Reporter.length_tellAll _ calls, ?_⟩
  · rw [deliver, Reporter.foldl_tellAll, Delivery.empty_append, Reporter.writeAll_warnings]
    rfl
  · rintro before c rest rfl
    exact ⟨_, Reporter.getElem?_tellAll _ before c rest, carriedOut_tell quiet sink before c⟩

/-- The output stream takes none but the very first write, and the error stream any but that. Loud,
the second line of the change is the first write to fail, and both failures are told; quiet, it is
the line of the first failure, and the other one is told. -/
theorem failed_writes_noted_once_second_line :
    let calls : List Call :=
      [.fieldChange .title ['a'] ['b'], .failure [97] ['x'], .failure [98] ['y']]
    let sink : Sink := fun n stream => if stream = .out then n == 0 else n != 0
    ((deliver false sink calls).warnings = 1 ∧
      ∃ d, (Reporter.tellAll { quiet := false } sink calls)[0]? = some d ∧
        d.out = "Title   : \"a\"\n".toList ∧ d.warnings = 1) ∧
      (deliver true sink calls).warnings = 1 ∧
      (∃ d, (Reporter.tellAll { quiet := true } sink calls)[1]? = some d ∧
        d.err = [] ∧ d.warnings = 1) ∧
      ∃ d, (Reporter.tellAll { quiet := true } sink calls)[2]? = some d ∧
        d.err = "retag: b: y\n".toList ∧ d.warnings = 0 := by
  intro calls sink
  obtain ⟨hloud, -, heach⟩ := failed_writes_noted_once false sink calls
  obtain ⟨hquiet, -, heach'⟩ := failed_writes_noted_once true sink calls
  obtain ⟨d₀, hd₀, hfirst⟩ := heach [] _ _ rfl
  obtain ⟨d₁, hd₁, hsecond⟩ := heach' [_] _ _ rfl
  obtain ⟨d₂, hd₂, hthird⟩ := heach' [_, _] _ _ rfl
  refine ⟨⟨hloud.trans (by decide), d₀, hd₀, ?_, ?_⟩, hquiet.trans (by decide),
    ⟨d₁, hd₁, ?_, ?_⟩, d₂, hd₂, ?_, ?_⟩
  · exact (hfirst.reaches .out).trans (by decide)
  · exact hfirst.warnings.trans (by decide)
  · exact (hsecond.failure _ _ rfl).2.trans (by decide)
  · exact hsecond.warnings.trans (by decide)
  · exact (hthird.failure _ _ rfl).2.trans (by decide +kernel)
  · exact hthird.warnings.trans (by decide)

end TagEdit.Report
