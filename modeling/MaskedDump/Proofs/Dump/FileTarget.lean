import MaskedDump.Proofs.Blanks
import MaskedDump.Proofs.Dump.FailFast

/-!
# Dumps to a file

A dump leaves its file alone until the database has named the version of the masking extension. Then
the file is emptied, and from there on it becomes what a dump to memory writes, to its last byte,
whether the dump succeeds or breaks off at any point.

Collaborators have a state of any kind, but see no files: what they answer must not depend on
whether the dump goes to memory.

Results:
* `conduct_filling`: a run to a file changes that file alone;
* `Output.find_writeTo`: its path leads to what it has received;
* `Output.anonymizedDump_fillsFile`: the calls, the result and the file of a dump.
-/

namespace MaskedDump

open FileSystem (Opened AgreesExcept)

variable {σ α : Type}

/-! ## The version -/

/-- There is a version just if a reply came that is not blank. -/
theorem Catalog.versionOf_eq_some_iff {answer : Except Failure Bytes} {version : String} :
    versionOf answer = some version ↔
      ∃ reply, answer = .ok reply ∧ (∃ b ∈ reply, Bytes.isBlank b = false) ∧
        Utf8.display (Bytes.trim reply) = version := by
  cases answer with
  | error failure => simp [versionOf]
  | ok reply =>
    have hblank : (Bytes.trim reply).isEmpty ↔ ¬ ∃ b ∈ reply, Bytes.isBlank b = false := by
      rw [List.isEmpty_iff, Bytes.trim_eq_nil_iff]
      simp [Bytes.Blank]
    by_cases hword : ∃ b ∈ reply, Bytes.isBlank b = false
    · simp [versionOf, hblank, hword]
    · simp [versionOf, hblank, hword]

/-! ## The files of a run -/

/-- What is true of a world whose sink is a file: what was handed over stands in it, and all other
files are as they were. -/
structure Filling (place : Place) (start w : World σ) : Prop where
  handing : Handing (.file place) start w w.sink.content
  files : AgreesExcept place start.files w.files

/-- Whatever is asked of the sink, no other file is changed. -/
theorem Filling.request {place : Place} {start w : World σ} (h : Filling place start w)
    (ask : Sink → Sink.Reaction) :
    AgreesExcept place start.files (Run.request ask w).2.files := by
  obtain ⟨handing, files⟩ := h
  generalize w.sink.content = content at handing
  obtain ⟨b, -, hbacking, houtlet, -, -⟩ := handing
  have hrequest : (Run.request ask w).2.files =
      w.files.writeAt place b.passed (ask w.sink).handed := by
    simp only [Run.request, World.handOver, hbacking, houtlet]
  rw [hrequest]
  exact files.writeAt _ _

/-- A file takes everything, and the run changes no other one. -/
theorem conduct_filling (r : Responder σ) (place : Place) (start : World σ) :
    Conduct r.amongTools (Filling place start) False :=
  have handing := conduct_handing (r.amongTools_spares (.file place)) nofun start
  { say := fun log h => ⟨handing.say log h.handing, h.files⟩
    write := by
      intro w bs h
      obtain ⟨hafter, hgranted⟩ := handing.write bs h.handing
      exact ⟨⟨hafter, h.request (·.write bs)⟩, hgranted⟩
    settle := by
      intro w h
      obtain ⟨hafter, hgranted⟩ := handing.settle h.handing
      exact ⟨⟨hafter, h.request Sink.settle⟩, hgranted⟩
    query := fun sql e h => ⟨handing.query sql e h.handing, h.files⟩
    copyOut := fun sql e h => ⟨handing.copyOut sql e h.handing, h.files⟩
    dump := fun args e h => ⟨handing.dump args e h.handing, h.files⟩
    dumpInto := fun args e h => ⟨handing.dumpInto args e h.handing, h.files⟩ }

namespace Output

/-- Work is not begun if its target cannot be opened. -/
theorem writeTo_unopened {target : Target} {w : World σ} {failure : Failure}
    (hopened : opened target w.files = .error failure) (work : Run σ α) :
    writeTo target work w = (.error failure, w) := by
  rw [writeTo, hopened]

/-- Work that is done with a file as its sink changes no other file. -/
theorem writeTo_agreesExcept {r : Responder σ} {path : Bytes} {w : World σ} {place : Place}
    {files : FileSystem} (hcreate : w.files.create path = .ok (.file place, files))
    {work : Run σ α} {P : List Step → α → Prop}
    (hwork : ∀ good, Conduct r.amongTools good False →
      Accounts r.amongTools good False work P) :
    AgreesExcept place w.files (writeTo (.file path) work w).2.files := by
  have hopened : opened (.file path) w.files = .ok (.file place, files) := by
    rw [opened, hcreate]
    rfl
  have hfiles : AgreesExcept place w.files files := by
    rcases FileSystem.create_cases hcreate with ⟨_, _, ⟨⟩, rfl, -⟩ | ⟨_, ⟨⟩, -⟩
    exact (AgreesExcept.refl place w.files).put _
  have hstart : Filling place w { w with files, sink := Sink.ofOpened (.file place) } :=
    ⟨handing_of_opened hopened, hfiles⟩
  obtain ⟨_, _, _, -, -, -, -, hfilling⟩ := hwork _ (conduct_filling r place w) _ hstart
  rw [writeTo, hopened]
  show AgreesExcept place w.files (Run.during .flushOutput Run.settle
    (work { w with files, sink := Sink.ofOpened (.file place) }).2).2.files
  rw [Run.during, Run.under_apply]
  exact hfilling.request Sink.settle

/-- Whoever looks at the path of the file afterwards finds what it has received. -/
theorem find_writeTo {r : Responder σ} {path : Bytes} {w : World σ} {place : Place}
    {files : FileSystem} (hcreate : w.files.create path = .ok (.file place, files))
    {work : Run σ α} {P : List Step → α → Prop}
    (hwork : ∀ good, Conduct r.amongTools good False →
      Accounts r.amongTools good False work P) {content : Bytes}
    (hreceived : (Opened.file place).Received w (writeTo (.file path) work w).2 content) :
    ∃ executable, (writeTo (.file path) work w).2.files.find path =
      .ok (place, .file content executable) := by
  obtain ⟨executable, hfile⟩ := hreceived
  have hagrees := writeTo_agreesExcept hcreate hwork
  rcases FileSystem.create_cases hcreate with
    ⟨_, _, ⟨⟩, -, hplace, hresolve, hpath⟩ | ⟨_, ⟨⟩, -⟩
  exact ⟨executable, FileSystem.find_of_resolve hagrees hplace hresolve hpath hfile⟩

/-! ## The whole run -/

/-- A dump to memory, behind a lookup of the version with some reply. -/
def dumpToMemory (c : Collaborators σ) (options : ExportOptions) (reply : Bytes) (w : World σ) :
    Except Failure Summary × World σ :=
  Script.write c options (Utf8.display (Bytes.trim reply))
    { Catalog.versionAsked c w with sink := {} }

/-- How a dump to a file comes out, by the answer to the first call. -/
structure FillsFile (r : Responder σ) (options : ExportOptions) (path : Bytes) (start : World σ)
    (outcome : Except Failure Summary × World σ) (answer : Except Failure Bytes) : Prop where
  /-- Without a version nothing else is called, and no file is created or changed. -/
  refused : (∀ reply, answer = .ok reply → ∀ b ∈ reply, Bytes.isBlank b = true) →
    (∃ failure, outcome.1 = .error failure) ∧
      outcome.2.exchanges = start.exchanges ++ [.query Catalog.versionQuery answer] ∧
      outcome.2.files = start.files
  /-- So it is if the file cannot be created, which the failure tells. -/
  uncreated : ∀ reply error, answer = .ok reply → (∃ b ∈ reply, Bytes.isBlank b = false) →
    start.files.create path = .error error →
      outcome.1 =
          .error ((Failure.ofSystem error).under (.activity (.createFile path))) ∧
        outcome.2.exchanges = start.exchanges ++ [.query Catalog.versionQuery (.ok reply)] ∧
        outcome.2.files = start.files
  /-- Otherwise the dump has the result and makes the calls of one to memory, and the path leads to
  what that one writes. -/
  filled : ∀ reply outlet files, answer = .ok reply → (∃ b ∈ reply, Bytes.isBlank b = false) →
    start.files.create path = .ok (outlet, files) → outlet ≠ .device .full →
      outcome.1 = (dumpToMemory r.amongTools options reply start).1 ∧
        outcome.2.exchanges = (dumpToMemory r.amongTools options reply start).2.exchanges ∧
        outlet.Received start outcome.2
          (dumpToMemory r.amongTools options reply start).2.sink.content ∧
        ∀ place, outlet = .file place → ∃ executable,
          outcome.2.files.find path =
            .ok (place, .file (dumpToMemory r.amongTools options reply start).2.sink.content
              executable)

/-- A dump touches its file only when it has a version and can create the file, and then the file
becomes what the dump writes to memory, also if it fails. -/
theorem anonymizedDump_fillsFile (r : Responder σ) (options : ExportOptions) (path : Bytes)
    (w : World σ) :
    FillsFile r options path w (anonymizedDump r.amongTools options (.file path) w)
      (r.query Catalog.versionQuery w.tools).1.result := by
  rcases anonymizedDump_cases r.amongTools options (.file path) w with
    ⟨hnone, failure, log, hdump⟩ | ⟨version, log, log', hsome, hdump⟩
  · have hblank : ∀ reply, (r.query Catalog.versionQuery w.tools).1.result = .ok reply →
        ¬ ∃ b ∈ reply, Bytes.isBlank b = false := fun reply hreply hword =>
      nomatch hnone.symm.trans (Catalog.versionOf_eq_some_iff.mpr ⟨reply, hreply, hword, rfl⟩)
    rw [hdump]
    refine ⟨fun _ => ⟨⟨failure, rfl⟩, rfl, rfl⟩, ?_, ?_⟩
    · exact fun reply _ hreply hword => absurd hword (hblank reply hreply)
    · exact fun reply _ _ hreply hword => absurd hword (hblank reply hreply)
  · obtain ⟨reply, hreply, ⟨b, hb, hne⟩, rfl⟩ := Catalog.versionOf_eq_some_iff.mp hsome
    obtain hreply : (r.query Catalog.versionQuery w.tools).1.result = .ok reply := hreply
    rw [hdump, hreply]
    let work := Script.write r.amongTools options (Utf8.display (Bytes.trim reply))
    let asked : World σ := { Catalog.versionAsked r.amongTools w with log }
    refine ⟨fun hblank => ?_, ?_, ?_⟩
    · exact absurd (hblank reply rfl b hb) (by rw [hne]; nofun)
    · rintro _ error ⟨⟩ - hcreate
      have hopened : opened (.file path) asked.files =
          .error ((Failure.ofSystem error).under (.activity (.createFile path))) :=
        congrArg (Except.mapError _) hcreate
      rw [writeTo_unopened hopened, ← hreply]
      exact ⟨rfl, rfl, rfl⟩
    · rintro _ outlet files ⟨⟩ - hcreate hspace
      have hopened : opened (.file path) asked.files = .ok (outlet, files) :=
        congrArg (Except.mapError _) hcreate
      have hcouples : (delivery outlet asked).Couples id work work :=
        Script.write_couples_identity (delivery.translates hspace r) options _
      obtain ⟨hresult, hexchanges, hreceived⟩ :
          (writeTo (.file path) work asked).1 =
              (dumpToMemory r.amongTools options reply w).1 ∧ _ ∧ _ :=
        writeTo_delivers hopened hspace hcouples rfl rfl rfl
      refine ⟨hresult, hexchanges, ?_, ?_⟩
      · exact received_since (received_congr hreceived rfl rfl rfl) rfl rfl
      · rintro place rfl
        exact find_writeTo (w := asked) hcreate
          (fun good hgood => Script.write_accounts hgood options _) hreceived

/-- The file of an older dump, where a dump is started whose second table breaks off. -/
def replacingStart : World Rehearsal.Rules where
  tools := brokenRules
  files :=
    { entries := [([], .directory), ([Bytes.ofString "out"], .file (Bytes.ofString "older") false)]
      workPlace := [] }

/-- That dump as far as it comes. -/
def brokenDump : Bytes :=
  Bytes.ofString
    ("--\n-- Dump generated by PostgreSQL Anonymizer 1.0\n--\n"
      ++ "CREATE TABLE s.t (\n);\nCREATE TABLE s.u (\n);\n\n"
      ++ "COPY s.t FROM STDIN WITH CSV;\n\\.\n\nCOPY s.u FROM STDIN WITH CSV;\n1\n")

/-- The older dump is gone, and what the new one has written is kept. -/
theorem anonymizedDump_fillsFile_replacing :
    ∃ executable,
      (anonymizedDump Rehearsal.Rules.responder.amongTools {} (.file (Bytes.ofString "out"))
          replacingStart).2.files.find (Bytes.ofString "out") =
        .ok ([Bytes.ofString "out"], .file brokenDump executable) := by
  have hanswer : (Rehearsal.Rules.responder.query Catalog.versionQuery
      replacingStart.tools).1.result = .ok (Bytes.ofString "1.0\n") := by decide +kernel
  have hword : ∃ b ∈ Bytes.ofString "1.0\n", Bytes.isBlank b = false := by decide +kernel
  have hcontent : (dumpToMemory Rehearsal.Rules.responder.amongTools {} (Bytes.ofString "1.0\n")
      replacingStart).2.sink.content = brokenDump := by decide +kernel
  have h := anonymizedDump_fillsFile Rehearsal.Rules.responder {} (Bytes.ofString "out")
    replacingStart
  obtain ⟨-, -, -, hfile⟩ :=
    h.filled _ (.file [Bytes.ofString "out"]) _ hanswer hword rfl nofun
  rw [← hcontent]
  exact hfile _ rfl

end Output

end MaskedDump
