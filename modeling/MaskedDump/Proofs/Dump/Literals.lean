import MaskedDump.Proofs.Dump.Statements
import MaskedDump.Proofs.Sql.Tokens

/-!
# Names in the statements of the catalog

Names of tables and schemas come from the database, and they may be any bytes. In a statement each
of them is a literal. Whoever reads the statement finds that literal, with the name for its value,
where the statement has a place for a name, and finds the rest of the statement as it was meant. So
no name can add anything to a statement, and the statements of different names differ.

The listing of sequences has a literal of its own, the dot between schema and sequence. It comes
before all schemas.

Results:
* `tokens?_maskFiltersQuery`, `tokens?_sequencesQuery`: what is read in the two statements;
* `literals?_sequencesQuery`: the literals of the listing, also when no schema is left out;
* `names_readBack`: all of this, and that statements tell which names they are about;
* `literals?_sequencesQuery_anon`: the schemas are not all the literals there are.
-/

namespace MaskedDump.Catalog

open Bytes Sql

/-! ## The lookup of masks -/

/-- The parts of the statement that looks up the masks of a table. -/
def maskFiltersParts (table : Identifier) : List Token :=
  [.text (ofString "SELECT anon.mask_filters("), .literal table.bytes,
    .text (ofString "::REGCLASS);")]

theorem maskFiltersQuery_eq (table : Identifier) :
    maskFiltersQuery table = (maskFiltersParts table).flatMap Token.written := by
  simp [maskFiltersQuery, maskFiltersParts, Token.written]

theorem tokens?_maskFiltersQuery (table : Identifier) :
    tokens? (maskFiltersQuery table) = some (maskFiltersParts table) := by
  rw [maskFiltersQuery_eq]
  refine tokens?_flatMap_written ?_ ?_
  · exact List.forall_mem_cons.mpr ⟨by decide, List.forall_mem_cons.mpr
      ⟨trivial, List.forall_mem_singleton.mpr (by decide)⟩⟩
  · simp [maskFiltersParts, Token.Alternates, Token.value?]

/-! ## The listing of sequences -/

/-- The parts in front of the schemas to leave out: the beginning of the statement, the dot between
schema and sequence, and the text behind it, which goes on as `further` says. -/
def listingParts (further : String) : List Token :=
  [.text (ofString "SELECT pg_catalog.quote_ident(sequence_schema) || "), .literal (ofString "."),
    .text (ofString
      (" || pg_catalog.quote_ident(sequence_name) FROM information_schema.sequences " ++ further))]

/-- The literals of some names, with commas between them. -/
def nameParts (names : List Identifier) : List Token :=
  (names.map fun name => Token.literal name.bytes).intersperse (.text (ofString ", "))

/-- The parts of the statement that lists the sequences outside some schemas. -/
def sequencesParts (excluded : List Identifier) : List Token :=
  if excluded = [] then listingParts "ORDER BY sequence_schema, sequence_name;"
  else
    listingParts "WHERE sequence_schema NOT IN (" ++ nameParts excluded
      ++ [.text (ofString ") ORDER BY sequence_schema, sequence_name;")]

theorem nameParts_cons_cons (name next : Identifier) (rest : List Identifier) :
    nameParts (name :: next :: rest) =
      .literal name.bytes :: .text (ofString ", ") :: nameParts (next :: rest) := rfl

theorem stands_nameParts (names : List Identifier) : ∀ t ∈ nameParts names, t.Stands := by
  induction names with
  | nil => exact nofun
  | cons name rest ih =>
    cases rest with
    | nil => exact List.forall_mem_singleton.mpr trivial
    | cons next rest =>
      rw [nameParts_cons_cons]
      exact List.forall_mem_cons.mpr ⟨trivial, List.forall_mem_cons.mpr ⟨by decide, ih⟩⟩

/-- Between texts, names and commas take turns. -/
theorem isChain_nameParts {names : List Identifier} (hnames : names ≠ []) (before after : Bytes) :
    (.text before :: (nameParts names ++ [.text after])).IsChain Token.Alternates := by
  induction names generalizing before with
  | nil => exact absurd rfl hnames
  | cons name rest ih =>
    cases rest with
    | nil => simp [nameParts, Token.Alternates, Token.value?]
    | cons next rest =>
      have hrest := ih (List.cons_ne_nil next rest) (ofString ", ")
      rw [nameParts_cons_cons]
      exact .cons_cons nofun (.cons_cons nofun hrest)

theorem flatMap_written_nameParts (names : List Identifier) :
    (nameParts names).flatMap Token.written =
      (ofString ", ").intercalate (names.map fun name => quoteLiteral name.bytes) := by
  induction names with
  | nil => rfl
  | cons name rest ih =>
    cases rest with
    | nil => simp [nameParts, Token.written]
    | cons next rest =>
      rw [nameParts_cons_cons, List.flatMap_cons, List.flatMap_cons, ih, List.map_cons,
        List.map_cons, List.map_cons, List.intercalate_cons_cons, List.append_assoc]
      rfl

theorem filterMap_value?_nameParts (names : List Identifier) :
    (nameParts names).filterMap Token.value? = names.map Identifier.bytes := by
  induction names with
  | nil => rfl
  | cons name rest ih =>
    cases rest with
    | nil => rfl
    | cons next rest =>
      rw [nameParts_cons_cons, List.map_cons, ← ih]
      rfl

theorem sequencesQuery_eq (excluded : List Identifier) :
    sequencesQuery excluded = (sequencesParts excluded).flatMap Token.written := by
  have hlisting : ∀ further, (listingParts further).flatMap Token.written =
      ofString ("SELECT pg_catalog.quote_ident(sequence_schema) || '.' || "
        ++ "pg_catalog.quote_ident(sequence_name) FROM information_schema.sequences ")
        ++ ofString further := by
    intro further
    have hdot : ofString ("SELECT pg_catalog.quote_ident(sequence_schema) || '.' || "
        ++ "pg_catalog.quote_ident(sequence_name) FROM information_schema.sequences ") =
        ofString "SELECT pg_catalog.quote_ident(sequence_schema) || " ++
          (quoteLiteral (ofString ".") ++
            ofString " || pg_catalog.quote_ident(sequence_name) FROM information_schema.sequences ")
        := by
      decide +kernel
    rw [hdot]
    simp [listingParts, Token.written, ofString_append _ further]
  rw [sequencesQuery, excludingSchemas, sequencesParts]
  cases excluded with
  | nil => simp [hlisting]
  | cons name rest =>
    have hend : ofString ") ORDER BY sequence_schema, sequence_name;" =
        ofString ") " ++ ofString "ORDER BY sequence_schema, sequence_name;" := by
      decide
    simp only [List.isEmpty_cons, Bool.false_eq_true, ite_false, reduceCtorEq, List.flatMap_append,
      hlisting, flatMap_written_nameParts, List.flatMap_singleton, Token.written, hend,
      List.append_assoc]

theorem tokens?_sequencesQuery (excluded : List Identifier) :
    tokens? (sequencesQuery excluded) = some (sequencesParts excluded) := by
  rw [sequencesQuery_eq]
  unfold sequencesParts
  split
  · refine tokens?_flatMap_written (by decide +kernel) ?_
    simp [listingParts, Token.Alternates, Token.value?]
  · rename_i hexcluded
    refine tokens?_flatMap_written ?_ ?_
    · refine List.forall_mem_append.mpr ⟨List.forall_mem_append.mpr
        ⟨by decide +kernel, stands_nameParts excluded⟩, ?_⟩
      exact List.forall_mem_singleton.mpr (by decide)
    · rw [List.append_assoc]
      exact .cons_cons nofun (.cons_cons nofun (isChain_nameParts hexcluded _ _))

/-- Whatever schemas are left out, the literals of the listing are its dot and these schemas. -/
theorem literals?_sequencesQuery (excluded : List Identifier) :
    literals? (sequencesQuery excluded) = some (ofString "." :: excluded.map Identifier.bytes) := by
  rw [literals?, tokens?_sequencesQuery, Option.map_some]
  unfold sequencesParts
  split
  · rename_i hexcluded
    subst hexcluded
    rfl
  · rw [List.filterMap_append, List.filterMap_append, filterMap_value?_nameParts]
    show some (ofString "." :: (excluded.map Identifier.bytes ++ [])) = _
    rw [List.append_nil]

theorem sequencesQuery_inj {excluded other : List Identifier}
    (h : sequencesQuery excluded = sequencesQuery other) : excluded = other := by
  have hliterals := literals?_sequencesQuery excluded
  rw [h, literals?_sequencesQuery, Option.some.injEq, List.cons.injEq] at hliterals
  exact (List.map_injective_iff.mpr (fun _ _ => congrArg Identifier.mk) hliterals.2).symm

/-! ## Both statements -/

/-- A written value is read as that value, in front of any text that cannot be part of it. The
statement about a table holds one literal, its name. The statement that leaves out schemas holds the
literals of these schemas, in their order, behind its dot. No two names or lists of names have the
same statement. -/
theorem names_readBack :
    (∀ value rest : Bytes, EndsLiteral rest →
      literal? (quoteLiteral value ++ rest) = some (value, rest)) ∧
    (∀ table : Identifier,
      tokens? (maskFiltersQuery table) =
        some [.text (ofString "SELECT anon.mask_filters("), .literal table.bytes,
          .text (ofString "::REGCLASS);")]) ∧
    (∀ excluded : List Identifier, excluded ≠ [] →
      tokens? (sequencesQuery excluded) =
        some ([.text (ofString "SELECT pg_catalog.quote_ident(sequence_schema) || "),
            .literal (ofString "."),
            .text (ofString
              (" || pg_catalog.quote_ident(sequence_name) FROM information_schema.sequences "
                ++ "WHERE sequence_schema NOT IN ("))] ++
          (excluded.map fun schema => Token.literal schema.bytes).intersperse
            (.text (ofString ", ")) ++
          [.text (ofString ") ORDER BY sequence_schema, sequence_name;")])) ∧
    (∀ excluded : List Identifier,
      literals? (sequencesQuery excluded) =
        some (ofString "." :: excluded.map Identifier.bytes)) ∧
    Function.Injective maskFiltersQuery ∧
    Function.Injective sequencesQuery := by
  refine ⟨fun value _ => literal?_quoteLiteral_append value, tokens?_maskFiltersQuery, ?_,
    literals?_sequencesQuery, fun _ _ => maskFiltersQuery_inj, fun _ _ => sequencesQuery_inj⟩
  intro excluded hexcluded
  rw [tokens?_sequencesQuery, sequencesParts, if_neg hexcluded]
  rfl

/-- Quotes, commas and parentheses in a name stay in its literal. -/
theorem names_readBack_quoted :
    (EndsLiteral (ofString "::REGCLASS);") ∧
        [Identifier.ofString "anon", .ofString "'), ('"] ≠ []) ∧
      literal? (quoteLiteral (ofString "'s.t''") ++ ofString "::REGCLASS);") =
        some (ofString "'s.t''", ofString "::REGCLASS);") ∧
      tokens? (sequencesQuery [.ofString "anon", .ofString "'), ('"]) =
        some [.text (ofString "SELECT pg_catalog.quote_ident(sequence_schema) || "),
          .literal (ofString "."),
          .text (ofString
            (" || pg_catalog.quote_ident(sequence_name) FROM information_schema.sequences "
              ++ "WHERE sequence_schema NOT IN (")),
          .literal (ofString "anon"), .text (ofString ", "), .literal (ofString "'), ('"),
          .text (ofString ") ORDER BY sequence_schema, sequence_name;")] := by
  have hends : EndsLiteral (ofString "::REGCLASS);") := by
    unfold EndsLiteral
    decide
  have hexcluded : [Identifier.ofString "anon", .ofString "'), ('"] ≠ [] := nofun
  obtain ⟨hliteral, -, hlisting, -⟩ := names_readBack
  exact ⟨⟨hends, hexcluded⟩, hliteral _ _ hends, hlisting _ hexcluded⟩

/-- The literals of the listing are not just the schemas to leave out. -/
theorem literals?_sequencesQuery_anon :
    literals? (sequencesQuery [anonSchema]) = some [ofString ".", ofString "anon"] ∧
      literals? (sequencesQuery [anonSchema]) ≠ some ([anonSchema].map Identifier.bytes) := by
  have hliterals : literals? (sequencesQuery [anonSchema]) =
      some [ofString ".", ofString "anon"] := literals?_sequencesQuery [anonSchema]
  refine ⟨hliterals, ?_⟩
  rw [hliterals]
  decide

end MaskedDump.Catalog
