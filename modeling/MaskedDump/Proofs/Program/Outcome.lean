import MaskedDump.Program.Outcome
import MaskedDump.Proofs.Run.Room

/-!
# Output taken in two ways

Definitions come from tools whose output is captured, rows from tools whose output is streamed. What
counts as a failure must not depend on the way: a table whose stream broke off would be cut short in
silence. So the two results are the same for every outcome of a process, but for the output itself,
which is returned in one way and counted in the other. A stream has one more reason to fail, the
sink, and that one counts more than whatever became of the process.

Results:
* `captured_ended`, `streamed_ended`: what the two ways make of a process that was started;
* `streamed_agrees`: the two ways side by side, for every process and every sink.
-/

namespace MaskedDump.Program

variable {σ : Type}

/-- All that a process wrote to its standard output. One that was not started wrote nothing. -/
def Outcome.output : Outcome → Bytes
  | .notStarted _ => []
  | .ended output _ _ => output

/-- That a program could not be started. -/
def unstarted (program : String) (error : SystemError) : Failure :=
  ⟨.activity (.execute program), [.system error]⟩

/-- That a program has ended otherwise than well. -/
def unsuccessful (program : String) (diagnostics : Bytes) (status : Option Int) : Failure :=
  ⟨.toolFailed program status (Text.trimEnd (Utf8.display diagnostics)), []⟩

/-- That the output of a program could not be passed on. -/
def unwritten (program : String) (error : SystemError) : Failure :=
  ⟨.activity (.writeToolOutput program), [.system error]⟩

/-- How the result of capturing the output of a process and a run in which it is streamed to a sink
come out. -/
structure Agrees (program : String) (outcome : Outcome) (sink : Sink)
    (whole : Except Failure Bytes) (run : Except Failure Nat × World σ) : Prop where
  /-- A sink with room takes the whole output, however the process ended. The stream succeeds just
  if capturing does, with the number of the captured bytes, and fails just as capturing does. -/
  alike : sink.HasRoom outcome.output →
    run.1 = whole.map List.length ∧ run.2.sink.content = sink.content ++ outcome.output
  /-- A process that was not started fails in both ways with what the system said, and nothing goes
  to the sink. -/
  notStarted : ∀ error, outcome = .notStarted error →
    whole = .error (unstarted program error) ∧ run.1 = .error (unstarted program error) ∧
      run.2.sink.content = sink.content ∧
      (unstarted program error).messages =
        ["Failed to execute " ++ program ++ ". Is PostgreSQL client installed?", error.message]
  /-- Status zero is success, whatever was said to the operator. -/
  succeeded : ∀ output diagnostics, outcome = .ended output diagnostics (some 0) →
    whole = .ok output
  /-- Any other status, and a signal, is a failure with what was said to the operator. -/
  failed : ∀ output diagnostics status, outcome = .ended output diagnostics status →
    status ≠ some 0 →
    whole = .error (unsuccessful program diagnostics status)
  /-- A sink without room breaks the stream off, however the process ended, and memory holds the
  first bytes up to its limit then. -/
  refused : ∀ output diagnostics status, outcome = .ended output diagnostics status →
    ¬ sink.HasRoom output →
    run.1 = .error (unwritten program sink.refusal) ∧
      (unwritten program sink.refusal).messages =
        ["Failed to write " ++ program ++ " output", sink.refusal.message] ∧
      ∀ limit, sink.backing = .memory (some limit) →
        run.2.sink.content = sink.content ++ output.take (limit - sink.content.length)

/-! ## Each way by itself -/

theorem captured_ended (program : String) (output diagnostics : Bytes) (status : Option Int) :
    captured program (.ended output diagnostics status) =
      if status = some 0 then .ok output
      else .error (unsuccessful program diagnostics status) := by
  rw [captured, verdict]
  split <;> rfl

/-- A process that was not started delivers nothing. -/
theorem streamed_notStarted (program : String) (error : SystemError) (log : List Log.Entry)
    (w : World σ) :
    let run := Run.receive { streamed program (.notStarted error) with log } w
    run.1 = .error (unstarted program error) ∧ run.2.sink.content = w.sink.content := by
  intro run
  have hresult := Run.receive_nothing
    (d := { streamed program (.notStarted error) with log }) rfl rfl w
  exact ⟨hresult, (Run.content_receive _ w).trans (Sink.write_nil w.sink).2⟩

/-- A sink with room takes the whole output, and the end of the stream is what capturing makes of
the process. -/
theorem streamed_ended (program : String) {output : Bytes} (diagnostics : Bytes)
    (status : Option Int) (log : List Log.Entry) {w : World σ} (hroom : w.sink.HasRoom output) :
    let run := Run.receive { streamed program (.ended output diagnostics status) with log } w
    run.1 = (captured program (.ended output diagnostics status)).map List.length ∧
      run.2.sink.content = w.sink.content ++ output := by
  intro run
  have hresult := Run.receive_settling
    (d := { streamed program (.ended output diagnostics status) with log }) rfl w
  have hgranted : w.sink.verdict (streamed program (.ended output diagnostics status)).bytes =
      .ok () := Sink.verdict_of_hasRoom hroom
  rw [hgranted] at hresult
  refine ⟨hresult.trans ?_, (Run.content_receive _ w).trans (Sink.content_of_hasRoom hroom)⟩
  rw [captured, streamed]
  cases verdict program diagnostics status <;> rfl

/-- The refusal of a sink is all that is told of a process whose output it has no room for. -/
theorem streamed_refused (program : String) {output : Bytes} (diagnostics : Bytes)
    (status : Option Int) (log : List Log.Entry) {w : World σ} (hroom : ¬ w.sink.HasRoom output) :
    (Run.receive { streamed program (.ended output diagnostics status) with log } w).1 =
      .error (unwritten program w.sink.refusal) := by
  have hresult := Run.receive_settling
    (d := { streamed program (.ended output diagnostics status) with log }) rfl w
  have hrefused : w.sink.verdict (streamed program (.ended output diagnostics status)).bytes =
      .error w.sink.refusal := Sink.verdict_of_not_hasRoom hroom
  rw [hrefused] at hresult
  exact hresult

/-! ## Both ways -/

/-- Capturing the output of a process and streaming it to a sink agree, whatever is logged before.
-/
theorem streamed_agrees (program : String) (outcome : Outcome) (log : List Log.Entry)
    (w : World σ) :
    Agrees program outcome w.sink (captured program outcome)
      (Run.receive { streamed program outcome with log } w) where
  alike hroom := by
    cases outcome with
    | notStarted error =>
      obtain ⟨hresult, hcontent⟩ := streamed_notStarted program error log w
      exact ⟨hresult, hcontent.trans (List.append_nil _).symm⟩
    | ended output diagnostics status => exact streamed_ended program diagnostics status log hroom
  notStarted := by
    rintro error rfl
    obtain ⟨hresult, hcontent⟩ := streamed_notStarted program error log w
    exact ⟨rfl, hresult, hcontent, rfl⟩
  succeeded := by
    rintro output diagnostics rfl
    rw [captured_ended, if_pos rfl]
  failed := by
    rintro output diagnostics status rfl hstatus
    rw [captured_ended, if_neg hstatus]
  refused := by
    rintro output diagnostics status rfl hroom
    refine ⟨streamed_refused program diagnostics status log hroom, rfl, fun limit hmemory => ?_⟩
    exact (Run.content_receive _ w).trans (Sink.content_of_not_hasRoom hmemory hroom)

/-- The status of a tool is not told when the sink is full before it has ended. -/
example :
    let start : World Unit :=
      { tools := (), files := { entries := [], workPlace := [] }
        sink := { backing := .memory (some 2) } }
    let run := Run.receive (streamed "psql" (.ended [49, 50, 10] [33] (some 2))) start
    run.1 = .error ⟨.activity (.writeToolOutput "psql"), [.system .sinkFull]⟩ ∧
      run.2.sink.content = [49, 50] := by
  decide +kernel

end MaskedDump.Program
