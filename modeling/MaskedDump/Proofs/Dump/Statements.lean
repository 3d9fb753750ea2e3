import MaskedDump.Dump.MaskedData
import MaskedDump.Proofs.Discovery.Names
import MaskedDump.Proofs.Sql.Literal

/-!
# Statements about tables

The rows of a table take two statements: one looks up the columns that mask them, one copies them.
Each tells which table it is about. In a copy the columns stand before the table as the database
has worded them, and nothing is known of them; but the table is a name, and a name is known from the
text that it ends.

Results:
* `maskFiltersQuery_inj`: the lookup of a table is no other one's;
* `copyStatement_inj`: the copy of a table is no other one's, whatever the columns.
-/

namespace MaskedDump

namespace Catalog

theorem maskFiltersQuery_inj {table other : Identifier}
    (h : maskFiltersQuery table = maskFiltersQuery other) : table = other := by
  have hliteral := List.append_cancel_left (List.append_cancel_right h)
  exact congrArg Identifier.mk (Sql.quoteLiteral_inj hliteral)

theorem maskSchemaQuery_ne_maskFiltersQuery (table : Identifier) :
    maskSchemaQuery ≠ maskFiltersQuery table := by
  have hunlike : Bytes.Unlike (Bytes.ofString "SELECT anon.mask_filters(") maskSchemaQuery := by
    decide
  intro h
  refine hunlike.not_begins List.prefix_rfl ?_
  rw [h, maskFiltersQuery, List.append_assoc]
  exact List.prefix_append _ _

end Catalog

namespace MaskedData

theorem copyStatement_inj {columns columns' : Bytes} {table other : Identifier}
    {name name' : Sql.Name} (htable : table.bytes = name.text) (hother : other.bytes = name'.text)
    (h : copyStatement columns table = copyStatement columns' other) : table = other := by
  have hfrom : Bytes.ofString " FROM ONLY " = Bytes.ofString " FROM ONLY" ++ [Bytes.space] := by
    decide
  have hbefore : ∀ (columns : Bytes) (table : Identifier),
      copyStatement columns table =
        Bytes.ofString "COPY (SELECT " ++ columns ++ Bytes.ofString " FROM ONLY"
          ++ Bytes.space :: table.bytes ++ Bytes.ofString ") TO STDOUT WITH CSV" := by
    intro columns table
    rw [copyStatement, hfrom]
    simp only [List.append_assoc, List.singleton_append]
  rw [hbefore, hbefore, htable, hother] at h
  have hnames := Sql.Name.text_inj_behind_space (List.append_cancel_right h)
  exact congrArg Identifier.mk (htable.trans (hnames.trans hother.symm))

end MaskedData

/-! ## Calls about a table -/

/-- Whether a call looks up the masks of a table, or copies its rows. -/
def Exchange.IsAbout (table : Identifier) : Exchange → Prop
  | query sql _ => sql = Catalog.maskFiltersQuery table
  | copyOut sql _ => ∃ columns, sql = MaskedData.copyStatement columns table
  | dump _ _ | dumpInto _ _ => False

end MaskedDump
