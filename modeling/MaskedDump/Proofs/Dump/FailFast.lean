import MaskedDump.Proofs.Dump.Accounts
import MaskedDump.Proofs.Dump.Delivery
import MaskedDump.Rehearsal.Rules

/-!
# Dumps that fail

A dump asks for the version of the masking extension, and goes on if there is one. From there on it
carries out a plan, and the first call that fails is the last one that is made. What the plan has
written by then stays in the target, and nothing else is in it: texts that are asked for as a whole
leave no trace when they do not come, and streams leave what they have delivered.

Results:
* `conduct_handing`: a target with space takes everything, if the collaborators leave it alone;
* `Output.writeTo_reports`: work with a target as its sink;
* `Output.anonymizedDump_failsFast`: the calls, the result and the output of a dump.
-/

namespace MaskedDump

open FileSystem (Opened)

variable {σ α : Type}

/-! ## Collaborators that leave the target alone -/

/-- Whether the file that an outlet is stays as it is. -/
def FileSystem.Opened.Spared (outlet : Opened) (before after : Surroundings σ) : Prop :=
  ∀ place, outlet = .file place → after.files.get? place = before.files.get? place

/-- Whether no call to some collaborators changes the file that an outlet is. -/
structure Responder.Spares (c : Collaborators σ) (outlet : Opened) : Prop where
  query : ∀ sql s, outlet.Spared s (c.query sql s).2
  copyOut : ∀ sql s, outlet.Spared s (c.copyOut sql s).2
  dump : ∀ args s, outlet.Spared s (c.dump args s).2
  dumpInto : ∀ args s, outlet.Spared s (c.dumpInto args s).2

/-- Collaborators that touch no files leave every outlet alone. -/
theorem Responder.amongTools_spares (r : Responder σ) (outlet : Opened) :
    r.amongTools.Spares outlet where
  query _ _ _ _ := rfl
  copyOut _ _ _ _ := rfl
  dump _ _ _ _ := rfl
  dumpInto _ _ _ _ := rfl

theorem Handing.heard {outlet : Opened} {start w : World σ} {content : Bytes}
    (h : Handing outlet start w content) {around : Surroundings σ}
    (hspared : outlet.Spared w.toSurroundings around) (e : Exchange) :
    Handing outlet start (w.heard around e) content := by
  obtain ⟨b, done, hbacking, houtlet, hpassed, hreceived⟩ := h
  refine .intro b done hbacking houtlet hpassed ?_
  cases outlet with
  | device kind => cases kind <;> exact hreceived
  | file place =>
    obtain ⟨executable, hfile⟩ := hreceived
    exact ⟨executable, (hspared place rfl).trans hfile⟩

/-- A target with space takes everything. -/
theorem conduct_handing {c : Collaborators σ} {outlet : Opened} (hspares : c.Spares outlet)
    (hspace : outlet ≠ .device .full) (start : World σ) :
    Conduct c (fun w => Handing outlet start w w.sink.content) False where
  say _ h := h.congr rfl rfl rfl rfl
  write bs h := by
    obtain ⟨after, hwrite, -, -, hcontent, hafter⟩ := h.write hspace bs
    rw [hwrite]
    exact ⟨hcontent ▸ hafter, .inr rfl⟩
  settle h := by
    obtain ⟨after, hsettle, -, -, hcontent, hafter, -⟩ := h.settle hspace
    rw [hsettle]
    exact ⟨hcontent ▸ hafter, .inr rfl⟩
  query sql e h := h.heard (hspares.query sql _) e
  copyOut sql e h := h.heard (hspares.copyOut sql _) e
  dump args e h := h.heard (hspares.dump args _) e
  dumpInto args e h := h.heard (hspares.dumpInto args _) e

/-! ## The version -/

namespace Catalog

/-- The version that the answer to the first call names, unless it is blank. -/
def versionOf : Except Failure Bytes → Option String
  | .ok reply =>
    if (Bytes.trim reply).isEmpty then none else some (Utf8.display (Bytes.trim reply))
  | .error _ => none

/-- A world after the lookup of the version. -/
def versionAsked (c : Collaborators σ) (w : World σ) : World σ :=
  let (reply, around) := c.query versionQuery w.toSurroundings
  { w.heard around (.query versionQuery reply.result) with log := w.log ++ reply.log }

theorem anonVersion_apply (c : Collaborators σ) (w : World σ) :
    (anonVersion c w).2 = versionAsked c w ∧
      (anonVersion c w).1.toOption =
        versionOf (c.query versionQuery w.toSurroundings).1.result := by
  have hasked : Run.during .queryExtensions (Run.query c versionQuery) w =
      ((c.query versionQuery w.toSurroundings).1.result.mapError
        (Failure.under (.activity .queryExtensions)), versionAsked c w) :=
    Run.under_apply _ _ w
  rw [anonVersion, Run.bind_apply, hasked]
  cases (c.query versionQuery w.toSurroundings).1.result with
  | error failure => exact ⟨rfl, rfl⟩
  | ok reply =>
    by_cases hblank : (Bytes.trim reply).isEmpty
    · simp only [mapError_ok, versionOf, hblank, ite_true]
      exact ⟨rfl, rfl⟩
    · simp only [mapError_ok, versionOf, hblank]
      exact ⟨rfl, rfl⟩

end Catalog

/-! ## The whole run -/

/-- What is said before some work and about its result changes the log alone. -/
theorem Run.said_apply (work : Run σ α) {level level' : Log.Level} {speaker speaker' : Log.Speaker}
    (before : String) (about : α → String) (w : World σ) :
    ∃ log log',
      (say level speaker before >>= fun _ =>
          work >>= fun a => say level' speaker' (about a) >>= fun _ => pure a) w =
        ((work { w with log }).1, { (work { w with log }).2 with log := log' }) := by
  refine ⟨w.log ++ [⟨level, speaker, before⟩], ?_⟩
  generalize hbegun : ({ w with log := w.log ++ [⟨level, speaker, before⟩] } : World σ) = begun
  have hsaid := bind_apply (say level speaker before)
    (fun _ => work >>= fun a => say level' speaker' (about a) >>= fun _ => pure a) w
  rw [hsaid]
  show ∃ log', (work >>= fun a => say level' speaker' (about a) >>= fun _ => pure a)
    { w with log := w.log ++ [⟨level, speaker, before⟩] } = _
  rw [hbegun, bind_apply]
  cases (work begun).1 with
  | ok a => exact ⟨_, rfl⟩
  | error failure => exact ⟨(work begun).2.log, rfl⟩

namespace Output

/-- Without a version a dump does nothing but ask for it. With one it writes to its target. -/
theorem anonymizedDump_cases (c : Collaborators σ) (options : ExportOptions) (target : Target)
    (w : World σ) :
    (Catalog.versionOf (c.query Catalog.versionQuery w.toSurroundings).1.result = none ∧
      ∃ failure log, anonymizedDump c options target w =
        (.error failure, { Catalog.versionAsked c w with log })) ∨
    ∃ version log log',
      Catalog.versionOf (c.query Catalog.versionQuery w.toSurroundings).1.result = some version ∧
      anonymizedDump c options target w =
        ((writeTo target (Script.write c options version) { Catalog.versionAsked c w with log }).1,
          { (writeTo target (Script.write c options version)
              { Catalog.versionAsked c w with log }).2 with log := log' }) := by
  let begun : World σ :=
    { w with log := w.log ++ [⟨.info, .command, "Checking for the anon extension..."⟩] }
  obtain ⟨hasked, hversion⟩ := Catalog.anonVersion_apply c begun
  have hdump : anonymizedDump c options target w = _ :=
    Run.bind_apply (Catalog.anonVersion c) _ begun
  cases hanswer : (Catalog.anonVersion c begun).1 with
  | error failure =>
    rw [hanswer] at hversion hdump
    rw [hasked] at hdump
    exact .inl ⟨hversion.symm, failure, _, hdump⟩
  | ok version =>
    rw [hanswer] at hversion hdump
    rw [hasked] at hdump
    refine .inr ⟨version, ?_⟩
    simp only [hdump, exists_and_left]
    exact ⟨hversion.symm, Run.said_apply _ _ _ (Catalog.versionAsked c begun)⟩

/-- How a dump to a target comes out, by the answer to the first call. -/
structure Proceeds (c : Collaborators σ) (options : ExportOptions) (outlet : Opened)
    (start : World σ) (outcome : Except Failure Summary × World σ)
    (reply : Except Failure Bytes) : Prop where
  /-- Without a version it fails. Nothing else was called then, and nothing was opened or
  written. -/
  refused : Catalog.versionOf reply = none →
    (¬ ∃ summary, outcome.1 = .ok summary) ∧
      outcome.2.exchanges = start.exchanges ++ [.query Catalog.versionQuery reply] ∧
      outcome.2.toSurroundings = (c.query Catalog.versionQuery start.toSurroundings).2 ∧
      outcome.2.standardOutput = start.standardOutput ∧
      outcome.2.standardError = start.standardError
  /-- With a version it carries out the plan of a dialogue into the target, up to the first call
  that fails. -/
  begun : ∀ version, Catalog.versionOf reply = some version →
    ∃ (d : Dialogue options) (made : List Exchange) (output : Bytes),
      outcome.2.exchanges =
          start.exchanges ++ .query Catalog.versionQuery reply :: made ∧
        FailsFast (d.plan version) made output (∃ summary, outcome.1 = .ok summary) ∧
        outlet.Received start outcome.2 output

/-- Work that takes steps takes them with a target as its sink, and the target receives what they
write. -/
theorem writeTo_reports {c : Collaborators σ} {target : Target} {w : World σ} {outlet : Opened}
    {files : FileSystem} (hopened : opened target w.files = .ok (outlet, files))
    (hspace : outlet ≠ .device .full) (hspares : c.Spares outlet) {work : Run σ α}
    {P : List Step → α → Prop}
    (hwork : ∀ good, Conduct c good False → Accounts c good False work P) :
    ∃ steps value course, P steps value ∧ Reports False value steps course ∧
      (writeTo target work w).1 = course.result ∧
      (writeTo target work w).2.exchanges = w.exchanges ++ course.exchanges ∧
      outlet.Received w (writeTo target work w).2 course.written := by
  obtain ⟨steps, value, course, hP, hreports, -, ⟨hresult, hexchanges, hcontent⟩, hhanding⟩ :=
    hwork _ (conduct_handing hspares hspace w) _ (handing_of_opened hopened)
  obtain ⟨settled, hwriteTo, hsettled, hreceived⟩ := writeTo_settles hopened hspace hhanding
  rw [hcontent] at hreceived
  rw [hwriteTo]
  exact ⟨steps, value, course, hP, hreports, hresult, hsettled.trans hexchanges, hreceived⟩

/-- A dump fails at the first call that fails. It has made the calls of the protocol until then,
and its target holds what the protocol has written by then. -/
theorem anonymizedDump_failsFast {c : Collaborators σ} (options : ExportOptions) {target : Target}
    {w : World σ} {outlet : Opened} {files : FileSystem}
    (hopened : opened target (c.query Catalog.versionQuery w.toSurroundings).2.files =
      .ok (outlet, files))
    (hspace : outlet ≠ .device .full) (hspares : c.Spares outlet) :
    Proceeds c options outlet w (anonymizedDump c options target w)
      (c.query Catalog.versionQuery w.toSurroundings).1.result := by
  rcases anonymizedDump_cases c options target w with
    ⟨hnone, failure, log, hdump⟩ | ⟨version, log, log', hsome, hdump⟩
  · rw [hdump]
    refine ⟨fun _ => ⟨nofun, rfl, rfl, rfl, rfl⟩, fun version hsome => ?_⟩
    exact absurd (hnone.symm.trans hsome) nofun
  · refine ⟨fun hnone => absurd (hnone.symm.trans hsome) nofun, fun version' hsome' => ?_⟩
    obtain rfl : version = version' := Option.some.inj (hsome.symm.trans hsome')
    obtain ⟨_, _, course, ⟨d, rfl, rfl⟩, hreports, hresult, hexchanges, hreceived⟩ :=
      writeTo_reports (w := { Catalog.versionAsked c w with log }) hopened hspace hspares
        fun good hgood => Script.write_accounts hgood options version
    rw [hdump, hresult]
    refine ⟨d, course.exchanges, course.written, ?_, hreports.failsFast, ?_⟩
    · exact hexchanges.trans (List.append_assoc _ _ _)
    · exact received_since (received_congr hreceived rfl rfl rfl) rfl rfl

/-- A database whose second table breaks off behind its first row. -/
def brokenRules : Rehearsal.Rules where
  statements :=
    [{ fits := Bytes.ofString "pg_extension", reply := Bytes.ofString "1.0\n" },
      { fits := Bytes.ofString "FROM ONLY s.u", reply := Bytes.ofString "1\n"
        failure := some (.ofCause (.plain "connection lost")) }]
  exports :=
    [{ fits := [Bytes.ofString "--section=pre-data"]
       reply := Bytes.ofString "CREATE TABLE s.t (\n);\nCREATE TABLE s.u (\n);\n" }]

/-- The start of a dump of that database. -/
def brokenStart : World Rehearsal.Rules where
  tools := brokenRules
  files := { entries := [], workPlace := [] }

/-- The row is in the output, behind the header of its table, and no terminator follows. -/
theorem anonymizedDump_failsFast_broken :
    (anonymizedDump Rehearsal.Rules.responder.amongTools {} .standardOutput
        brokenStart).2.standardOutput =
        Bytes.ofString
          ("--\n-- Dump generated by PostgreSQL Anonymizer 1.0\n--\n"
            ++ "CREATE TABLE s.t (\n);\nCREATE TABLE s.u (\n);\n\n"
            ++ "COPY s.t FROM STDIN WITH CSV;\n\\.\n\nCOPY s.u FROM STDIN WITH CSV;\n1\n") ∧
      Proceeds Rehearsal.Rules.responder.amongTools {} (.device .standardOutput) brokenStart
        (anonymizedDump Rehearsal.Rules.responder.amongTools {} .standardOutput brokenStart)
        (.ok (Bytes.ofString "1.0\n")) := by
  refine ⟨by decide +kernel, ?_⟩
  exact anonymizedDump_failsFast {} rfl (by decide) (Responder.amongTools_spares _ _)

end Output

end MaskedDump
