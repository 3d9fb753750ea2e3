import MaskedDump.Dump.Output
import MaskedDump.Proofs.Dump.Coupled
import MaskedDump.Proofs.FileSystem
import MaskedDump.Proofs.Run.Room

/-!
# Dumps to a target

A target is written through a buffer. What the buffer has handed over stands in the target already,
and what it holds back goes there when the run settles, at the latest. So a target that has space
receives what a sink in memory would take, whether the run succeeds or not, and the run itself does
not notice the difference.

Collaborators may know the files only if they touch none: one that writes to the target itself would
spoil it.

Results:
* `delivery`: the coupling of a run whose sink is memory with one to a target;
* `Output.writeTo_delivers`: what work leaves in a target.
-/

namespace MaskedDump

open FileSystem (Opened)

variable {σ α : Type}

/-! ## Outlets -/

/-- Whether an outlet has received some bytes since a run was started. A file holds them and nothing
else. -/
def FileSystem.Opened.Received (outlet : Opened) (start w : World σ) (bs : Bytes) : Prop :=
  match outlet with
  | .file place => ∃ executable, w.files.get? place = some (.file bs executable)
  | .device .standardOutput => w.standardOutput = start.standardOutput ++ bs
  | .device .standardError => w.standardError = start.standardError ++ bs
  | .device _ => True

theorem received_congr {outlet : Opened} {start w v : World σ} {bs : Bytes}
    (h : outlet.Received start w bs) (hfiles : v.files = w.files)
    (houtput : v.standardOutput = w.standardOutput) (herror : v.standardError = w.standardError) :
    outlet.Received start v bs := by
  unfold Opened.Received at *
  rwa [hfiles, houtput, herror]

theorem received_since {outlet : Opened} {start start' w : World σ} {bs : Bytes}
    (h : outlet.Received start w bs) (houtput : start'.standardOutput = start.standardOutput)
    (herror : start'.standardError = start.standardError) : outlet.Received start' w bs := by
  unfold Opened.Received at *
  rwa [houtput, herror]

theorem World.tools_handOver (w : World σ) (bs : Bytes) : (w.handOver bs).tools = w.tools := by
  unfold handOver
  split
  · rfl
  · split <;> rfl

/-- What is handed over is received behind what was handed over before. -/
theorem received_handOver {outlet : Opened} {start v : World σ} {b : Buffer} {done : Bytes}
    (hbacking : v.sink.backing = .opened b) (houtlet : b.outlet = outlet)
    (hpassed : b.passed = done.length) (h : outlet.Received start v done) (lot : Bytes) :
    outlet.Received start (v.handOver lot) (done ++ lot) := by
  subst houtlet
  unfold World.handOver
  rw [hbacking]
  cases houtlet : b.outlet with
  | file place =>
    rw [houtlet] at h
    obtain ⟨executable, hfile⟩ := h
    refine ⟨executable, ?_⟩
    simp only [houtlet, FileSystem.writeAt, hfile, FileSystem.get?_put, hpassed,
      FileSystem.overwrite_length, ite_true]
  | device kind =>
    rw [houtlet] at h
    cases kind with
    | standardOutput =>
      simp only [houtlet, Opened.Received] at h ⊢
      rw [h, List.append_assoc]
    | standardError =>
      simp only [houtlet, Opened.Received] at h ⊢
      rw [h, List.append_assoc]
    | discard | full | terminal => trivial

/-! ## Opening -/

/-- A target that was opened has received nothing. -/
theorem received_of_opened {target : Target} {start : World σ} {files : FileSystem}
    {outlet : Opened} (h : Output.opened target start.files = .ok (outlet, files)) :
    outlet.Received start { start with files } [] := by
  have hdevice : ∀ kind, (Opened.device kind).Received start { start with files } [] := by
    intro kind
    cases kind <;> simp [Opened.Received]
  cases target with
  | standardOutput =>
    cases h
    exact hdevice _
  | file path =>
    cases hcreate : start.files.create path with
    | error e =>
      rw [Output.opened, hcreate] at h
      nomatch h
    | ok made =>
      rw [Output.opened, hcreate] at h
      cases h
      rcases FileSystem.create_cases hcreate with
        ⟨place, executable, rfl, rfl, -⟩ | ⟨kind, rfl, -⟩
      · exact ⟨executable, by rw [FileSystem.get?_put, if_pos rfl]⟩
      · exact hdevice kind

/-! ## Coupled sinks -/

/-- What is true of a world whose sink is an outlet: what was handed over has been received, and it
makes up the content together with what is held back. -/
inductive Handing (outlet : Opened) (start w : World σ) : Bytes → Prop
  | intro (b : Buffer) (done : Bytes) : w.sink.backing = .opened b → b.outlet = outlet →
      b.passed = done.length → outlet.Received start w done →
      Handing outlet start w (done ++ b.held)

/-- Worlds that differ in their sinks and in their files: one keeps all bytes in memory, and the
other one is handing them to an outlet. -/
structure Delivers (outlet : Opened) (start w v : World σ) : Prop where
  tools : v.tools = w.tools
  exchanges : v.exchanges = w.exchanges
  unlimited : w.sink.backing = .memory none
  handing : Handing outlet start v w.sink.content

theorem Handing.congr {outlet : Opened} {start w v : World σ} {content : Bytes}
    (h : Handing outlet start w content) (hsink : v.sink = w.sink) (hfiles : v.files = w.files)
    (houtput : v.standardOutput = w.standardOutput) (herror : v.standardError = w.standardError) :
    Handing outlet start v content := by
  obtain ⟨b, done, hbacking, houtlet, hpassed, hreceived⟩ := h
  exact ⟨b, done, hsink ▸ hbacking, houtlet, hpassed,
    received_congr hreceived hfiles houtput herror⟩

/-- Whatever lots a request to a sink hands over, they are received. -/
theorem Handing.pass {outlet : Opened} {start w : World σ} {b : Buffer} {done : Bytes}
    (hbacking : w.sink.backing = .opened b) (houtlet : b.outlet = outlet)
    (hpassed : b.passed = done.length) (hreceived : outlet.Received start w done)
    (lots : List Bytes) (held taken : Bytes) :
    Handing outlet start
      { w.handOver lots.flatten with
        sink := ⟨taken, .opened (b.pass lots held false)⟩ }
      (done ++ lots.flatten ++ held) := by
  refine ⟨b.pass lots held false, done ++ lots.flatten, rfl, houtlet, ?_, ?_⟩
  · rw [Buffer.pass, hpassed, List.length_append]
  · exact received_congr (received_handOver hbacking houtlet hpassed hreceived _) rfl rfl rfl

/-- A write is granted. -/
theorem Handing.write {outlet : Opened} {start w : World σ} {content : Bytes}
    (h : Handing outlet start w content) (hspace : outlet ≠ .device .full) (bs : Bytes) :
    ∃ after, Run.write bs w = (.ok (), after) ∧ after.tools = w.tools ∧
      after.exchanges = w.exchanges ∧ after.sink.content = w.sink.content ++ bs ∧
      Handing outlet start after (content ++ bs) := by
  obtain ⟨b, done, hbacking, houtlet, hpassed, hreceived⟩ := h
  have hwrite : w.sink.write bs =
      ⟨.ok (), ⟨w.sink.content ++ bs, .opened (b.pass (b.lots bs).1 (b.lots bs).2 false)⟩,
        (b.lots bs).1.flatten⟩ := by
    simp only [Sink.write, hbacking, Buffer.offer_of_ne (houtlet ▸ hspace)]
  have hlots : done ++ (b.lots bs).1.flatten ++ (b.lots bs).2 = done ++ b.held ++ bs := by
    rw [List.append_assoc, b.flatten_lots, List.append_assoc]
  rw [Run.write, Run.request, hwrite, ← hlots]
  exact ⟨_, rfl, World.tools_handOver w _, World.exchanges_handOver w _, rfl,
    .pass hbacking houtlet hpassed hreceived _ _ _⟩

/-- A sink that settles has handed over everything. -/
theorem Handing.settle {outlet : Opened} {start w : World σ} {content : Bytes}
    (h : Handing outlet start w content) (hspace : outlet ≠ .device .full) :
    ∃ after, Run.settle w = (.ok (), after) ∧ after.tools = w.tools ∧
      after.exchanges = w.exchanges ∧ after.sink.content = w.sink.content ∧
      Handing outlet start after content ∧ outlet.Received start after content := by
  obtain ⟨b, done, hbacking, houtlet, hpassed, hreceived⟩ := h
  have hsettle : w.sink.settle =
      ⟨.ok (), ⟨w.sink.content, .opened (b.pass [b.held] [] false)⟩, b.held⟩ := by
    simp only [Sink.settle, hbacking, Buffer.offer_of_ne (houtlet ▸ hspace)]
  have hall := received_handOver hbacking houtlet hpassed hreceived b.held
  have hpass := Handing.pass hbacking houtlet hpassed hreceived [b.held] [] w.sink.content
  rw [List.flatten_singleton, List.append_nil] at hpass
  rw [Run.settle, Run.request, hsettle]
  exact ⟨_, rfl, World.tools_handOver w _, World.exchanges_handOver w _, rfl, hpass,
    received_congr hall rfl rfl rfl⟩

/-- Runs whose sinks are memory and an outlet. -/
def delivery (outlet : Opened) (start : World σ) : Coupling σ where
  worlds := Delivers outlet start
  causes := Eq
  lost _ _ _ := False
  worlds_log _ _ h := ⟨h.tools, h.exchanges, h.unlimited, h.handing.congr rfl rfl rfl rfl⟩
  lost_log _ h := h
  causes_refl _ := rfl

namespace delivery

open Coupling

variable {outlet : Opened} {start : World σ}

theorem write_couples (hspace : outlet ≠ .device .full) (bs : Bytes) :
    (delivery outlet start).Couples id (Run.write bs) (Run.write bs) where
  ends := by
    intro w v h
    obtain ⟨after, hwrite, htools, hexchanges, -, hhanding⟩ := h.handing.write hspace bs
    rw [Run.write_unlimited h.unlimited, hwrite]
    exact .done (a := ())
      ⟨htools.trans h.tools, hexchanges.trans h.exchanges, h.unlimited, hhanding⟩
  keeps _ _ _ h := h

theorem settle_couples (hspace : outlet ≠ .device .full) :
    (delivery outlet start).Couples id Run.settle Run.settle where
  ends := by
    intro w v h
    obtain ⟨after, hsettle, htools, hexchanges, -, hhanding, -⟩ := h.handing.settle hspace
    rw [Run.settle_memory h.unlimited, hsettle]
    exact .done (a := ())
      ⟨htools.trans h.tools, hexchanges.trans h.exchanges, h.unlimited, hhanding⟩
  keeps _ _ _ h := h

/-- Collaborators that touch no files answer alike. -/
theorem agrees {β : Type} (call : σ → β × σ) :
    (delivery outlet start).Agrees fun around =>
      ((call around.tools).1, { around with tools := (call around.tools).2 }) := by
  intro w v h
  have hanswer : (call v.tools).1 = (call w.tools).1 := by rw [h.tools]
  have htools : (call v.tools).2 = (call w.tools).2 := by rw [h.tools]
  have hexchanges : ∀ e, v.exchanges ++ [e] = w.exchanges ++ [e] := by simp [h.exchanges]
  exact ⟨hanswer, fun e =>
    ⟨htools, hexchanges e, h.unlimited, h.handing.congr rfl rfl rfl rfl⟩⟩

theorem translates (hspace : outlet ≠ .device .full) (r : Responder σ) :
    (delivery outlet start).Translates .identity r.amongTools r.amongTools :=
  .of_agrees (write_couples hspace) (settle_couples hspace) (fun _ _ _ h => h.elim)
    (fun sql => agrees (r.query sql)) (fun sql => agrees (r.copyOut sql))
    (fun args => agrees (r.dump args)) (fun args => agrees (r.dumpInto args))

end delivery

/-! ## Work with a target -/

namespace Output

/-- Once the work is done the target settles, and then it has received everything. -/
theorem writeTo_settles {target : Target} {w start : World σ} {outlet : Opened}
    {files : FileSystem} (hopened : opened target w.files = .ok (outlet, files))
    (hspace : outlet ≠ .device .full) {work : Run σ α} {content : Bytes}
    (hhanding :
      Handing outlet start (work { w with files, sink := Sink.ofOpened outlet }).2 content) :
    ∃ settled, writeTo target work w =
        ((work { w with files, sink := Sink.ofOpened outlet }).1, settled) ∧
      settled.exchanges = (work { w with files, sink := Sink.ofOpened outlet }).2.exchanges ∧
      outlet.Received start settled content := by
  obtain ⟨settled, hsettle, -, hexchanges, -, -, hreceived⟩ := hhanding.settle hspace
  refine ⟨{ settled with sink := w.sink }, ?_, hexchanges, received_congr hreceived rfl rfl rfl⟩
  rw [writeTo, hopened]
  dsimp only
  generalize work { w with files, sink := Sink.ofOpened outlet } = outcome at hsettle ⊢
  obtain ⟨result, after⟩ := outcome
  simp only [Run.during, Run.under_apply, hsettle]
  cases result <;> rfl

/-- What a target holds when it is opened. -/
theorem handing_of_opened {target : Target} {w : World σ} {outlet : Opened} {files : FileSystem}
    (hopened : opened target w.files = .ok (outlet, files)) :
    Handing outlet w { w with files, sink := Sink.ofOpened outlet } [] :=
  .intro { outlet } [] rfl rfl rfl (received_congr (received_of_opened hopened) rfl rfl rfl)

/-- Work that is done with a target as its sink has the result and makes the calls that it has and
makes with a sink in memory, and what that sink takes is what the target receives. -/
theorem writeTo_delivers {target : Target} {w memory : World σ} {outlet : Opened}
    {files : FileSystem} (hopened : opened target w.files = .ok (outlet, files))
    (hspace : outlet ≠ .device .full) {work : Run σ α}
    (hwork : (delivery outlet w).Couples id work work) (htools : memory.tools = w.tools)
    (hexchanges : memory.exchanges = w.exchanges) (hsink : memory.sink = {}) :
    (writeTo target work w).1 = (work memory).1 ∧
      (writeTo target work w).2.exchanges = (work memory).2.exchanges ∧
      outlet.Received w (writeTo target work w).2 (work memory).2.sink.content := by
  have hstart : Delivers outlet w memory { w with files, sink := Sink.ofOpened outlet } := by
    refine ⟨htools.symm, hexchanges.symm, ?_, ?_⟩
    · rw [hsink]
    · rw [hsink]
      exact handing_of_opened hopened
  rcases (hwork.ends _ _ hstart).same rfl with ⟨hresult, hafter⟩ | ⟨_, _, hlost⟩
  · obtain ⟨settled, hwriteTo, hsettled, hreceived⟩ := writeTo_settles hopened hspace hafter.handing
    rw [hwriteTo]
    exact ⟨hresult, hsettled.trans hafter.exchanges, hreceived⟩
  · exact hlost.elim

end Output

end MaskedDump
