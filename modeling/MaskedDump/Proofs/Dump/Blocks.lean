import MaskedDump.Proofs.Dump.Accounts

/-!
# Courses of the data phase

The block of a table can break off at four places: the lookup of its masks fails, the sink cuts its
header, its rows do not come to an end, or the sink cuts its terminator. The data phase writes whole
blocks one after the other until one breaks off or no table is left.

Results:
* `TableCourse.of_reports`: the courses of the steps of one table, by the place where they break
  off;
* `PhaseCourse.of_reports`, `stream_follows`: the courses of the whole phase;
* `PhaseCourse.blocks`: its exchanges are those of some blocks, and at most one lookup behind them.
-/

namespace MaskedDump.MaskedData

open Course

variable {σ : Type}

/-- A table whose rows were asked for: the reply to the lookup of its masks, and the rows. -/
structure Block where
  table : Identifier
  reply : Bytes
  rows : Delivery

namespace Block

/-- The lookup of the masks and the copy that follows at once. -/
def exchanges (b : Block) : List Exchange :=
  [.query (Catalog.maskFiltersQuery b.table) (.ok b.reply),
    .copyOut (copyStatement (Catalog.columnsOfReply b.reply) b.table) b.rows]

/-- The block as it stands in the dump. -/
def text (b : Block) : Bytes := header b.table ++ b.rows.bytes ++ terminator

/-- Whether the rows came to their end. -/
def Ended (b : Block) : Prop := b.rows.ending = .ok ()

end Block

/-- Courses of the block of a table. -/
inductive TableCourse (table : Identifier) : Course Nat → Prop
  | unmasked {failure : Failure} :
      TableCourse table ⟨[.query (Catalog.maskFiltersQuery table) (.error failure)], [],
        .error (failure.under (.activity (.lookUpMasks table)))⟩
  | headerCut {reply part : Bytes} {e : SystemError} : part <+: header table →
      TableCourse table ⟨[.query (Catalog.maskFiltersQuery table) (.ok reply)], part,
        .error ((Failure.ofSystem e).under (.activity .writeCopyHeader))⟩
  | rowsBroken {b : Block} {part : Bytes} {failure : Failure} : b.table = table →
      Streamed (.copyOut (copyStatement (Catalog.columnsOfReply b.reply) table)) []
        ⟨[.copyOut (copyStatement (Catalog.columnsOfReply b.reply) table) b.rows], part,
          .error failure⟩ →
      TableCourse table ⟨b.exchanges, header table ++ part, .error failure⟩
  | terminatorCut {b : Block} {part : Bytes} {e : SystemError} : b.table = table → b.Ended →
      part <+: terminator →
      TableCourse table ⟨b.exchanges, header table ++ b.rows.bytes ++ part,
        .error ((Failure.ofSystem e).under (.activity .writeCopyTerminator))⟩
  | whole {b : Block} : b.table = table → b.Ended →
      TableCourse table ⟨b.exchanges, b.text, .ok b.rows.bytes.length⟩

/-- The table is put on top of a failure of its block. -/
theorem TableCourse.of_reports {refuses : Prop} {answers : TableAnswers} {c : Course Nat}
    (h : Reports refuses answers.rows.bytes.length answers.steps c) :
    ∃ c', TableCourse answers.table c' ∧ c = c'.under (.tableExport answers.table.sanitized) := by
  obtain ⟨table, masks, rows⟩ := answers
  -- the lookup of the masks
  cases h with
  | broken hfails =>
    obtain ⟨rfl, rfl⟩ := hfails
    exact ⟨_, .unmasked, rfl⟩
  | cons hmasks h =>
  obtain ⟨reply, rfl⟩ := hmasks
  -- the header
  cases h with
  | broken hfails =>
    obtain ⟨hpart, error, rfl⟩ := hfails
    exact ⟨_, .headerCut hpart, rfl⟩
  | cons _ h =>
  -- the rows
  cases h with
  | broken hfails =>
    have hstreamed := hfails.streamed
      (.copyOut (copyStatement (Catalog.columnsOfReply reply) table)) []
    exact ⟨_, .rowsBroken (b := ⟨table, reply, rows⟩) rfl hstreamed, rfl⟩
  | cons hended h =>
  -- the terminator
  cases h with
  | broken hfails =>
    obtain ⟨hpart, error, rfl⟩ := hfails
    have hcut : TableCourse table _ :=
      .terminatorCut (b := ⟨table, reply, rows⟩) (e := error) rfl hended hpart
    rw [List.append_assoc] at hcut
    exact ⟨_, hcut, rfl⟩
  | cons _ h =>
  cases h
  have hwhole : TableCourse table _ := .whole (b := ⟨table, reply, rows⟩) rfl hended
  rw [Block.text, List.append_assoc] at hwhole
  exact ⟨_, hwhole, rfl⟩

/-! ## The whole phase -/

/-- Courses of the data phase, whose bytes are read by `read`: whole blocks, and then the table
whose block broke off, if one did. -/
inductive PhaseCourse {α : Type} (read : Nat → α) (tables : List Identifier) : Course α → Prop
  | whole (blocks : List Block) : blocks.map Block.table = tables → (∀ b ∈ blocks, b.Ended) →
      PhaseCourse read tables ⟨blocks.flatMap Block.exchanges, blocks.flatMap Block.text,
        .ok (read (blocks.flatMap (·.rows.bytes)).length)⟩
  | broken (blocks : List Block) {table : Identifier} {rest : List Identifier}
      {exchanges : List Exchange} {written : Bytes} {failure : Failure} :
      blocks.map Block.table ++ table :: rest = tables → (∀ b ∈ blocks, b.Ended) →
      TableCourse table ⟨exchanges, written, .error failure⟩ →
      PhaseCourse read tables ⟨blocks.flatMap Block.exchanges ++ exchanges,
        blocks.flatMap Block.text ++ written, .error (failure.under (.tableExport table.sanitized))⟩

/-- A whole block in front of the courses of the tables behind it. Its rows are counted in. -/
theorem PhaseCourse.cons {α : Type} {read : Nat → α} {b : Block} {tables : List Identifier}
    {c : Course α} (hb : b.Ended)
    (h : PhaseCourse (fun bytes => read (b.rows.bytes.length + bytes)) tables c) :
    PhaseCourse read (b.table :: tables) (c.after b.exchanges b.text) := by
  cases h with
  | whole blocks htables hended =>
    have hwhole : PhaseCourse read (b.table :: tables) _ := .whole (b :: blocks)
      (by rw [List.map_cons, htables]) (List.forall_mem_cons.mpr ⟨hb, hended⟩)
    simpa [after] using hwhole
  | broken blocks htables hended hbroken =>
    have hphase : PhaseCourse read (b.table :: tables) _ := .broken (b :: blocks)
      (by rw [List.map_cons, List.cons_append, htables])
      (List.forall_mem_cons.mpr ⟨hb, hended⟩) hbroken
    simpa [after] using hphase

/-- The courses of the steps of some tables, by induction over the answers about them. -/
theorem PhaseCourse.of_reports {α : Type} {refuses : Prop} {answers : List TableAnswers}
    {c : Course α} (read : Nat → α)
    (h : Reports refuses (read (answers.flatMap (·.rows.bytes)).length)
      (answers.flatMap TableAnswers.steps) c) :
    PhaseCourse read (answers.map TableAnswers.table) c := by
  induction answers generalizing c read with
  | nil =>
    cases h
    exact .whole [] rfl nofun
  | cons first rest ih =>
    rw [List.flatMap_cons, List.flatMap_cons, List.length_append] at h
    rw [List.map_cons]
    rcases reports_append_iff.mp h with ⟨hfirst⟩ | ⟨hfirst, hrest⟩
    · obtain ⟨⟨_, _, failure | _⟩, hbroken, hcourse⟩ := TableCourse.of_reports hfirst
      · cases hcourse
        exact .broken [] rfl nofun hbroken
      · cases hcourse
    · obtain ⟨⟨_, _, _ | _⟩, hwhole, hcourse⟩ := TableCourse.of_reports hfirst
      · cases hcourse
      · cases hcourse
        cases hwhole with
        | whole hb hended =>
          rw [← hfirst.whole.1] at hrest
          rw [← hb]
          exact (ih _ hrest).cons hended

/-- The phase reports the bytes of all its rows. -/
theorem stream_follows (c : Collaborators σ) (tables : List Identifier) :
    Follows (stream c tables) (PhaseCourse (DataSummary.mk tables.length) tables) := by
  refine (stream_accounts (conduct_any c) tables).follows ?_
  rintro _ _ course ⟨answers, rfl, rfl, rfl⟩ hreports
  exact .of_reports _ hreports

/-! ## The record of the phase -/

/-- A block that broke off had its rows asked for, or only its masks looked up. -/
theorem TableCourse.broken {table : Identifier} {exchanges : List Exchange} {written : Bytes}
    {failure : Failure} (h : TableCourse table ⟨exchanges, written, .error failure⟩) :
    (∃ result, exchanges = [.query (Catalog.maskFiltersQuery table) result]) ∨
      ∃ b : Block, b.table = table ∧ exchanges = b.exchanges := by
  cases h with
  | unmasked => exact .inl ⟨_, rfl⟩
  | headerCut => exact .inl ⟨_, rfl⟩
  | rowsBroken hb => exact .inr ⟨_, hb, rfl⟩
  | terminatorCut hb => exact .inr ⟨_, hb, rfl⟩

theorem PhaseCourse.blocks {α : Type} {read : Nat → α} {tables : List Identifier} {c : Course α}
    (h : PhaseCourse read tables c) :
    ∃ (blocks : List Block) (lookups : List Exchange),
      c.exchanges = blocks.flatMap Block.exchanges ++ lookups ∧
      blocks.map Block.table <+: tables ∧ ∀ e ∈ lookups, e.IsQuery := by
  cases h with
  | @whole blocks htables hended =>
    exact ⟨blocks, [], (List.append_nil _).symm, htables ▸ List.prefix_rfl, nofun⟩
  | @broken blocks table rest exchanges written failure htables hended hbroken =>
    rcases hbroken.broken with ⟨result, rfl⟩ | ⟨b, hb, rfl⟩
    · refine ⟨blocks, _, rfl, ⟨table :: rest, htables⟩, ?_⟩
      simp [Exchange.IsQuery]
    · refine ⟨blocks ++ [b], [], ?_, ⟨rest, ?_⟩, nofun⟩
      · rw [List.flatMap_append, List.flatMap_singleton, List.append_nil]
      · rw [List.map_append, List.map_singleton, hb, ← htables, List.append_assoc,
          List.singleton_append]

end MaskedDump.MaskedData
