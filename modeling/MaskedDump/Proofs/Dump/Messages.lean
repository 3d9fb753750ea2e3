import MaskedDump.Proofs.Dump.Blocks
import MaskedDump.Proofs.Dump.Statements
import Mathlib.Data.List.Basic

/-!
# Messages about tables

A name that is shown to a user may hold line feeds and other control characters, and with them it
could forge lines of a log. So a name loses them when it is sanitized. The data phase names the
table that failed by its sanitized name. The lookup of its masks names it a second time, further
down in the chain, and there the name is shown as it is.

Results:
* `Text.printable_sanitize`: a sanitized text has no control characters;
* `TableCourse.told`: what the failure of one table tells;
* `stream_printable_iff`: the messages of a failed data phase have no control characters exactly
  when it was not the lookup that failed, or the name has none;
* `stream_messages_lineFeed`: a name with a line feed goes into a message.
-/

namespace MaskedDump

/-! ## Texts without control characters -/

namespace Text

/-- Whether a text has no control characters. -/
def Printable (s : String) : Prop := ∀ c ∈ s.toList, isControl c = false

instance decidablePrintable (s : String) : Decidable (Printable s) :=
  List.decidableBAll _ s.toList

theorem printable_append {s t : String} : Printable (s ++ t) ↔ Printable s ∧ Printable t := by
  simp only [Printable, String.toList_append, List.forall_mem_append]

theorem printable_sanitize (s : String) : Printable (sanitize s) := by
  intro c hc
  rw [sanitize, String.toList_ofList] at hc
  simpa using (List.mem_filter.mp (List.mem_of_mem_take hc)).2

end Text

open Text

theorem SystemError.printable_message (e : SystemError) : Printable e.message := by
  cases e <;> decide +kernel

theorem Activity.printable_lookUpMasks (table : Identifier) :
    Printable (Activity.lookUpMasks table).message ↔ Printable table.display := by
  have hlead : Printable "Failed to get masking filters for " := by decide +kernel
  have hmessage : (Activity.lookUpMasks table).message =
      "Failed to get masking filters for " ++ table.display := rfl
  rw [hmessage]
  exact printable_append.trans (and_iff_right hlead)

/-! ## Failures without control characters -/

namespace Failure

/-- Whether no message of a failure has control characters. -/
def Printable (failure : Failure) : Prop := ∀ message ∈ failure.messages, Text.Printable message

instance decidablePrintable (failure : Failure) : Decidable failure.Printable :=
  List.decidableBAll _ failure.messages

theorem messages_under (cause : Cause) (failure : Failure) :
    (failure.under cause).messages = cause.message :: failure.messages := rfl

theorem printable_under {cause : Cause} {failure : Failure} :
    (failure.under cause).Printable ↔ Text.Printable cause.message ∧ failure.Printable := by
  rw [Printable, messages_under, List.forall_mem_cons, Printable]

theorem printable_ofSystem (e : SystemError) : (ofSystem e).Printable :=
  List.forall_mem_singleton.mpr e.printable_message

theorem Printable.underAll {failure : Failure} (h : failure.Printable) {causes : List Cause}
    (hcauses : ∀ cause ∈ causes, Text.Printable cause.message) :
    (failure.underAll causes).Printable := by
  induction causes with
  | nil => exact h
  | cons cause rest ih =>
    obtain ⟨hcause, hrest⟩ := List.forall_mem_cons.mp hcauses
    exact printable_under.mpr ⟨hcause, ih hrest⟩

end Failure

/-- Whether what a collaborator has to say about a failure of its own, and about a refusal of the
sink, has no control characters. -/
def Exchange.ToldPrintably : Exchange → Prop
  | query _ result | dump _ result => ∀ failure, result = .error failure → failure.Printable
  | copyOut _ d | dumpInto _ d =>
    (∀ failure, d.ending = .error failure → failure.Printable) ∧
      ∀ cause ∈ d.refusal, Printable cause.message

namespace MaskedData

open Course

variable {σ : Type}

/-! ## The failure of a table -/

/-- Whether the last call of some exchanges was the lookup of the masks of a table, and failed. -/
def LookupFailed (exchanges : List Exchange) (table : Identifier) : Prop :=
  ∃ failure, exchanges.getLast? = some (.query (Catalog.maskFiltersQuery table) (.error failure))

theorem lookupFailed_append {exchanges more : List Exchange} {table : Identifier}
    (hmore : more ≠ []) : LookupFailed (exchanges ++ more) table ↔ LookupFailed more table := by
  rw [LookupFailed, LookupFailed, List.getLast?_append_of_ne_nil _ hmore]

/-- A lookup alone is that of its own table. -/
theorem lookupFailed_singleton {table other : Identifier} {own : Failure} :
    LookupFailed [.query (Catalog.maskFiltersQuery table) (.error own)] other ↔ other = table := by
  constructor
  · rintro ⟨_, hlast⟩
    exact (Catalog.maskFiltersQuery_inj (Exchange.query.inj (Option.some.inj hlast)).1).symm
  · rintro rfl
    exact ⟨own, rfl⟩

/-- A failed lookup puts the name of its table on top of what the collaborator said. Any other
failure has no control characters of its own. -/
theorem TableCourse.told {table : Identifier} {exchanges : List Exchange} {written : Bytes}
    {failure : Failure} (h : TableCourse table ⟨exchanges, written, .error failure⟩)
    (htold : ∀ e ∈ exchanges, e.ToldPrintably) :
    (∃ own : Failure, own.Printable ∧
        exchanges = [.query (Catalog.maskFiltersQuery table) (.error own)] ∧
        failure = own.under (.activity (.lookUpMasks table))) ∨
      (failure.Printable ∧ ∀ other, ¬ LookupFailed exchanges other) := by
  cases h with
  | @unmasked own =>
    exact .inl ⟨own, htold _ List.mem_cons_self own rfl, rfl, rfl⟩
  | @headerCut reply part e hpart =>
    have hstep : Printable (Cause.activity .writeCopyHeader).message := by decide +kernel
    refine .inr ⟨Failure.printable_under.mpr ⟨hstep, Failure.printable_ofSystem e⟩, ?_⟩
    rintro other ⟨own, hlast⟩
    obtain ⟨-, hanswer⟩ := Exchange.query.inj (Option.some.inj hlast)
    cases hanswer
  | @rowsBroken b part failure hb hrows =>
    obtain ⟨hending, hrefusal⟩ : Exchange.ToldPrintably
        (.copyOut (copyStatement (Catalog.columnsOfReply b.reply) b.table) b.rows) :=
      htold _ (List.mem_cons_of_mem _ List.mem_cons_self)
    refine .inr ⟨?_, ?_⟩
    · cases hrows with
      | failed hfailed => exact hending _ hfailed
      | @cut _ _ e _ => exact (Failure.printable_ofSystem e).underAll hrefusal
    · rintro _ ⟨_, ⟨⟩⟩
  | @terminatorCut b part e hb hended hpart =>
    have hstep : Printable (Cause.activity .writeCopyTerminator).message := by decide +kernel
    refine .inr ⟨Failure.printable_under.mpr ⟨hstep, Failure.printable_ofSystem e⟩, ?_⟩
    rintro _ ⟨_, ⟨⟩⟩

theorem TableCourse.exchanges_ne_nil {table : Identifier} {c : Course Nat}
    (h : TableCourse table c) : c.exchanges ≠ [] := by
  cases h <;> exact List.cons_ne_nil _ _

/-! ## The failure of the phase -/

theorem printable_tableExport (table : Identifier) :
    Printable (Cause.tableExport table.sanitized).message := by
  have hlead : Printable "Failed to export masked data for table " := by decide +kernel
  have hmessage : (Cause.tableExport table.sanitized).message =
      "Failed to export masked data for table " ++ table.sanitized := rfl
  rw [hmessage]
  exact printable_append.mpr ⟨hlead, printable_sanitize _⟩

/-- A phase fails for a table it was given, named by its sanitized name on top of what went wrong
with it. Let the collaborators and the sink have no control characters in what they say. If the
phase ended with a failed lookup, then below the sanitized name stands the name as it is, and below
that what the collaborator said. So no message of the failure has control characters exactly when
the phase did not end with a lookup, or the shown name of the table has none. -/
theorem stream_printable_iff (c : Collaborators σ) (tables : List Identifier) (w : World σ)
    {failure : Failure} (hfailed : (stream c tables w).1 = .error failure) :
    ∃ exchanges : List Exchange,
      (stream c tables w).2.exchanges = w.exchanges ++ exchanges ∧
      ((∀ e ∈ exchanges, e.ToldPrintably) →
        (∃ table ∈ tables, failure.outermost = .tableExport table.sanitized) ∧
        (∀ table, LookupFailed exchanges table → table ∈ tables ∧
          ∃ own : Failure, own.Printable ∧
            failure = (own.under (.activity (.lookUpMasks table))).under
              (.tableExport table.sanitized)) ∧
        (failure.Printable ↔
          ∀ table, LookupFailed exchanges table → Printable table.display)) := by
  obtain ⟨course, hphase, hresult, hexchanges, -⟩ := stream_follows c tables w
  obtain ⟨exchanges, written, result⟩ := course
  obtain rfl : result = .error failure := hresult.symm.trans hfailed
  refine ⟨exchanges, hexchanges, fun htold => ?_⟩
  cases hphase with
  | @broken blocks table rest exchanges written failure htables _ hbroken =>
    have hmem : table ∈ tables := htables ▸ List.mem_append_right _ List.mem_cons_self
    have hfirst := printable_tableExport table
    simp only [lookupFailed_append hbroken.exchanges_ne_nil, Failure.printable_under]
    refine ⟨⟨table, hmem, rfl⟩, ?_⟩
    rcases hbroken.told fun e he => htold e (List.mem_append_right _ he) with
      ⟨own, hown, rfl, rfl⟩ | ⟨hfailure, hno⟩
    · -- the lookup failed, and it is the lookup of this table alone
      have hname := Activity.printable_lookUpMasks table
      simp only [lookupFailed_singleton, forall_eq, Failure.printable_under]
      exact ⟨⟨hmem, own, hown, rfl⟩, fun h => hname.mp h.2.1,
        fun h => ⟨hfirst, hname.mpr h, hown⟩⟩
    · exact ⟨fun other h => absurd h (hno other), fun _ other h => absurd h (hno other),
        fun _ => ⟨hfirst, hfailure⟩⟩

/-! ## Names with a line feed -/

/-- A database that answers a lookup in a given way and whose rows are lost. -/
def failingTools (lookup : Except Failure Bytes) : Responder Unit where
  query _ s := ({ result := lookup }, s)
  copyOut _ s := ({ bytes := [], ending := .error (.ofCause (.plain "lost")) }, s)
  dump _ s := ({ result := .ok [] }, s)
  dumpInto _ s := ({ bytes := [], ending := .ok () }, s)

/-- The start of a data phase. -/
def failingWorld : World Unit where
  tools := ()
  files := { entries := [], workPlace := [] }

/-- A quoted name that runs over a line. -/
def twoLineName : Identifier := .ofString "s.\"a\nb\""

/-- What is asked for when the lookup is answered. -/
def lostRows : List Exchange :=
  [.query (Catalog.maskFiltersQuery twoLineName) (.ok []),
    .copyOut (copyStatement Catalog.allColumns twoLineName)
      { bytes := [], ending := .error (.ofCause (.plain "lost")) }]

/-- When the rows of the table are lost, the name has lost its line feed. -/
theorem stream_printable_rows :
    ∃ failure : Failure,
      (stream (failingTools (.ok [])).amongTools [twoLineName] failingWorld).1 =
        .error failure ∧
      failure.messages = ["Failed to export masked data for table s.\"ab\"", "lost"] ∧
      (stream (failingTools (.ok [])).amongTools [twoLineName] failingWorld).2.exchanges =
        failingWorld.exchanges ++ lostRows ∧
      (∀ e ∈ lostRows, e.ToldPrintably) ∧ failure.Printable ∧
      ∀ table, ¬ LookupFailed lostRows table := by
  have hfailed : (stream (failingTools (.ok [])).amongTools [twoLineName] failingWorld).1 =
      .error ⟨.tableExport "s.\"ab\"", [.plain "lost"]⟩ := by
    decide +kernel
  obtain ⟨exchanges, hexchanges, hprintable⟩ :=
    stream_printable_iff (failingTools (.ok [])).amongTools [twoLineName] failingWorld hfailed
  have hrecord : failingWorld.exchanges ++ lostRows = failingWorld.exchanges ++ exchanges :=
    hexchanges
  obtain rfl := List.append_cancel_left hrecord
  have htold : ∀ e ∈ lostRows, e.ToldPrintably := by
    refine List.forall_mem_cons.mpr ⟨nofun, List.forall_mem_singleton.mpr ⟨?_, nofun⟩⟩
    rintro _ ⟨⟩
    decide +kernel
  have hno : ∀ table, ¬ LookupFailed lostRows table := by
    rintro table ⟨_, ⟨⟩⟩
  have hprinted := (hprintable htold).2.2.mpr fun table h => absurd h (hno table)
  exact ⟨_, hfailed, by decide +kernel, hexchanges, htold, hprinted, hno⟩

/-- When the lookup of its masks fails, the line feed stands in the message of the lookup. -/
theorem stream_messages_lineFeed :
    ∃ (failure : Failure) (exchanges : List Exchange),
      (stream (failingTools (.error (.ofCause (.plain "lost")))).amongTools [twoLineName]
        failingWorld).1 = .error failure ∧
      (stream (failingTools (.error (.ofCause (.plain "lost")))).amongTools [twoLineName]
        failingWorld).2.exchanges = failingWorld.exchanges ++ exchanges ∧
      (∀ e ∈ exchanges, e.ToldPrintably) ∧
      failure.messages = ["Failed to export masked data for table s.\"ab\"",
        "Failed to get masking filters for s.\"a\nb\"", "lost"] ∧
      ¬ failure.Printable := by
  refine ⟨⟨.tableExport "s.\"ab\"",
    [.activity (.lookUpMasks twoLineName), .plain "lost"]⟩,
    [.query (Catalog.maskFiltersQuery twoLineName) (.error (.ofCause (.plain "lost")))],
    by decide +kernel, rfl, ?_, by decide +kernel, by decide +kernel⟩
  refine List.forall_mem_singleton.mpr ?_
  rintro _ ⟨⟩
  decide +kernel

end MaskedData

end MaskedDump
