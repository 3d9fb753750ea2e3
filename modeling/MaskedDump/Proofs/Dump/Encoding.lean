import MaskedDump.Proofs.Dump.Content
import MaskedDump.Proofs.Dump.Coupled
import Mathlib.Logic.Equiv.Basic

/-!
# Dumps in other encodings

A database in another encoding that extends ASCII speaks in other bytes, for the names in it and for
its rows. When its collaborators answer every recoded call with the recoded answer, a dump of it
makes the recoded calls and writes the recoded script. So no step of a dump decodes what it handles,
or takes a byte for a letter or a blank because of an encoding that it has in mind.

Results:
* `recoding`: the coupling of worlds that differ in their encodings;
* `Script.write_recodes`: a dump of a recoded database is the recoded dump.
-/

namespace MaskedDump

variable {σ τ α : Type}

/-! ## Recoded collaborators -/

namespace Recoding

variable (ρ : Recoding)

/-- The recoding that leads back. -/
def inverse : Recoding where
  perm := ρ.perm.symm
  perm_ascii b hb := ρ.perm.symm_apply_eq.mpr (ρ.perm_ascii b hb).symm

@[simp] theorem bytes_inverse_bytes (bs : Bytes) : ρ.inverse.bytes (ρ.bytes bs) = bs := by
  rw [bytes, bytes, List.map_map]
  exact List.map_id'' (fun b => ρ.perm.symm_apply_apply b) bs

@[simp] theorem map_bytes_inverse_bytes (args : List Bytes) :
    (args.map ρ.bytes).map ρ.inverse.bytes = args := by
  rw [List.map_map]
  exact List.map_id'' ρ.bytes_inverse_bytes args

/-- A recoded reply. Failures are the same. -/
def reply (r : Reply) : Reply := { r with result := r.result.map ρ.bytes }

/-- A recoded delivery. It ends as the delivery itself does. -/
def delivery (d : Delivery) : Delivery := { d with bytes := ρ.bytes d.bytes }

/-- A recoded call with the recoded answer. -/
def exchange : Exchange → Exchange
  | .query sql result => .query (ρ.bytes sql) (result.map ρ.bytes)
  | .copyOut sql rows => .copyOut (ρ.bytes sql) (ρ.delivery rows)
  | .dump args result => .dump (args.map ρ.bytes) (result.map ρ.bytes)
  | .dumpInto args text => .dumpInto (args.map ρ.bytes) (ρ.delivery text)

end Recoding

/-- What answers a recoded call with the recoded answer. -/
def Responder.recoded (ρ : Recoding) (r : Responder τ) : Responder τ where
  query sql s := (r.query (ρ.inverse.bytes sql) s).map ρ.reply id
  copyOut sql s := (r.copyOut (ρ.inverse.bytes sql) s).map ρ.delivery id
  dump args s := (r.dump (args.map ρ.inverse.bytes) s).map ρ.reply id
  dumpInto args s := (r.dumpInto (args.map ρ.inverse.bytes) s).map ρ.delivery id

/-- A world with its record and the content of its sink recoded. -/
def World.recoded (ρ : Recoding) (w : World σ) : World σ :=
  { w with
    sink := { w.sink with content := ρ.bytes w.sink.content }
    exchanges := w.exchanges.map ρ.exchange }

/-! ## Coupled encodings -/

/-- Whether a cause is another one with the name in it recoded. -/
inductive Recoding.Renames (ρ : Recoding) : Cause → Cause → Prop
  | same (cause : Cause) : Renames ρ cause cause
  | lookUpMasks (table : Identifier) :
      Renames ρ (.activity (.lookUpMasks table)) (.activity (.lookUpMasks (ρ.identifier table)))
  | tableExport (table : Identifier) :
      Renames ρ (.tableExport table.sanitized) (.tableExport (ρ.identifier table).sanitized)

/-- Worlds with the same surroundings whose sinks, with the same limit, and whose records answer to
each other. -/
structure InStep (ρ : Recoding) (limit : Option Nat) (w v : World σ) : Prop where
  around : v.toSurroundings = w.toSurroundings
  exchanges : v.exchanges = w.exchanges.map ρ.exchange
  content : v.sink.content = ρ.bytes w.sink.content
  backing : w.sink.backing = .memory limit
  backing' : v.sink.backing = .memory limit

/-- Runs in different encodings. Neither is stopped without the other. -/
def recoding (ρ : Recoding) (limit : Option Nat) : Coupling σ where
  worlds := InStep ρ limit
  causes := ρ.Renames
  lost _ _ _ := False
  worlds_log _ _ h := ⟨h.around, h.exchanges, h.content, h.backing, h.backing'⟩
  lost_log _ h := h
  causes_refl := .same

namespace recoding

open Coupling

variable {ρ : Recoding} {limit : Option Nat}

theorem write_couples (bs : Bytes) :
    (recoding (σ := σ) ρ limit).Couples id (Run.write bs) (Run.write (ρ.bytes bs)) where
  ends := by
    intro w v h
    have hlength : v.sink.content.length = w.sink.content.length := by
      rw [h.content, Recoding.length_bytes]
    have hafter : ∀ part : Bytes,
        InStep ρ limit { w with sink := { w.sink with content := w.sink.content ++ part } }
          { v with sink := { v.sink with content := v.sink.content ++ ρ.bytes part } } := by
      intro part
      refine ⟨h.around, h.exchanges, ?_, h.backing, h.backing'⟩
      rw [h.content, Recoding.bytes_append]
    cases limit with
    | none =>
      rw [Run.write_unlimited h.backing, Run.write_unlimited h.backing']
      exact .done (a := ()) (hafter bs)
    | some most =>
      by_cases hroom : bs.length ≤ most - w.sink.content.length
      · have hroom' : (ρ.bytes bs).length ≤ most - v.sink.content.length := by
          rwa [Recoding.length_bytes, hlength]
        rw [Run.write_fitting h.backing hroom, Run.write_fitting h.backing' hroom']
        exact .done (a := ()) (hafter bs)
      · have hroom' : ¬ (ρ.bytes bs).length ≤ most - v.sink.content.length := by
          rwa [Recoding.length_bytes, hlength]
        have hpart : (ρ.bytes bs).take (most - v.sink.content.length) =
            ρ.bytes (bs.take (most - w.sink.content.length)) := by
          rw [Recoding.bytes, Recoding.bytes, List.map_take, hlength]
        rw [Run.write_exceeding h.backing hroom, Run.write_exceeding h.backing' hroom', hpart]
        exact .failed (List.forall₂_same.mpr fun cause _ => .same cause) (hafter _)
  keeps _ _ _ h := h

theorem settle_couples :
    (recoding (σ := σ) ρ limit).Couples id Run.settle Run.settle where
  ends := by
    intro w v h
    rw [Run.settle_memory h.backing, Run.settle_memory h.backing']
    exact .done (a := ()) h
  keeps _ _ _ h := h

/-- Coupled worlds after a call, whose record is recoded. -/
theorem heard {w v : World σ} (h : InStep ρ limit w v) (around : Surroundings σ) (e : Exchange) :
    InStep ρ limit (w.heard around e) (v.heard around (ρ.exchange e)) := by
  refine ⟨rfl, ?_, h.content, h.backing, h.backing'⟩
  rw [World.heard, World.heard, h.exchanges, List.map_append, List.map_singleton]

/-- A call whose result is asked for, and its recoding. -/
theorem ask_couples {exchange exchange' : Except Failure Bytes → Exchange}
    {answer answer' : Surroundings σ → Reply × Surroundings σ}
    (hexchange : ∀ result, ρ.exchange (exchange result) = exchange' (result.map ρ.bytes))
    (hanswer : ∀ s, answer' s = (answer s).map ρ.reply id) :
    (recoding ρ limit).Couples ρ.bytes (Run.ask exchange answer) (Run.ask exchange' answer') := by
  refine .ask (fun w v h => ?_) fun _ _ _ h => h.elim
  have hafter := heard h (answer w.toSurroundings).2 (exchange (answer w.toSurroundings).1.result)
  rw [hexchange] at hafter
  rw [h.around, hanswer]
  exact ⟨rfl, hafter⟩

/-- A call that streams to the sink, and its recoding. -/
theorem stream_couples {exchange exchange' : Delivery → Exchange}
    {answer answer' : Surroundings σ → Delivery × Surroundings σ}
    (hexchange : ∀ d, ρ.exchange (exchange d) = exchange' (ρ.delivery d))
    (hanswer : ∀ s, answer' s = (answer s).map ρ.delivery id) :
    (recoding ρ limit).Couples id (Run.stream exchange answer)
      (Run.stream exchange' answer') := by
  refine .stream (g := ρ.delivery) (fun w v h => ?_) (fun _ _ _ h => h.elim) fun d => ?_
  · have hafter := heard h (answer w.toSurroundings).2 (exchange (answer w.toSurroundings).1)
    rw [hexchange] at hafter
    rw [h.around, hanswer]
    exact ⟨rfl, hafter⟩
  · exact .receive (write_couples d.bytes) settle_couples (ρ.length_bytes d.bytes) rfl rfl rfl

theorem translates (c : Collaborators σ) :
    (recoding ρ limit).Translates ρ c (c.recoded ρ) where
  lookUpMasks := .lookUpMasks
  tableExport := .tableExport
  write := write_couples
  query sql := ask_couples (fun _ => rfl) fun s => by
    simp only [Responder.recoded, Recoding.bytes_inverse_bytes]
  copyOut sql := stream_couples (fun _ => rfl) fun s => by
    simp only [Responder.recoded, Recoding.bytes_inverse_bytes]
  dump args := ask_couples (fun _ => rfl) fun s => by
    simp only [Responder.recoded, Recoding.map_bytes_inverse_bytes]
  dumpInto args := stream_couples (fun _ => rfl) fun s => by
    simp only [Responder.recoded, Recoding.map_bytes_inverse_bytes]

end recoding

/-! ## Whole dumps -/

/-- Whether two results are the same, or failures with the same causes but for names that are
recoded. -/
def Recoding.SameResult (ρ : Recoding) : Except Failure α → Except Failure α → Prop
  | .ok a, .ok b => a = b
  | .error failure, .error other => List.Forall₂ ρ.Renames failure.chain other.chain
  | _, _ => False

/-- Whether a run is another one recoded: the same calls with the same answers, the same script and
the same result, all of it recoded. -/
structure Recodes (ρ : Recoding) (plain recoded : Except Failure α × World σ) : Prop where
  result : ρ.SameResult plain.1 recoded.1
  exchanges : recoded.2.exchanges = plain.2.exchanges.map ρ.exchange
  content : recoded.2.sink.content = ρ.bytes plain.2.sink.content

theorem recoding.recodes {ρ : Recoding} {limit : Option Nat}
    {plain recoded : Except Failure α × World σ} (h : (recoding ρ limit).Ends id plain recoded) :
    Recodes ρ plain recoded := by
  cases h with
  | done h => exact ⟨rfl, h.exchanges, h.content⟩
  | failed hchain h => exact ⟨hchain, h.exchanges, h.content⟩
  | lost h => exact h.elim

namespace Script

/-- A dump of a recoded database is the recoded dump, if the options and the version are in
ASCII. -/
theorem write_recodes (ρ : Recoding) (c : Collaborators σ) {options : ExportOptions}
    {version : String} (hoptions : ∀ s ∈ options.texts, (Bytes.ofString s).IsAscii)
    (hversion : (Bytes.ofString version).IsAscii) {limit : Option Nat} (w : World σ)
    (hsink : w.sink.backing = .memory limit) :
    Recodes ρ (write c options version w)
      (write (c.recoded ρ) options version (w.recoded ρ)) := by
  have htranslates : (recoding ρ limit).Translates ρ c (c.recoded ρ) := recoding.translates c
  have hkeeps : ρ.KeepsOptions options := fun s hs => Recoding.keeps_of_isAscii (hoptions s hs)
  have hcouples := write_couples htranslates hkeeps (Recoding.keeps_of_isAscii hversion)
  have hstart : InStep ρ limit w (w.recoded ρ) := ⟨rfl, rfl, rfl, hsink, hsink⟩
  exact recoding.recodes (hcouples.ends _ _ hstart)

/-- Exchanges two bytes beyond ASCII, which are accented letters in many encodings. -/
def accents : Recoding where
  perm := Equiv.swap 233 234
  perm_ascii b hb := by
    refine Equiv.swap_apply_of_ne_of_ne ?_ ?_
    · rintro rfl
      exact absurd hb (by decide)
    · rintro rfl
      exact absurd hb (by decide)

/-- A database whose table, mask and rows hold such bytes. -/
def accentedRules : Rehearsal.Rules where
  statements :=
    [{ fits := Bytes.ofString "mask_filters", reply := Bytes.ofString "c" ++ [233] },
      { fits := Bytes.ofString "COPY (SELECT c" ++ [233],
        reply := Bytes.ofString "1," ++ [233, 160] ++ Bytes.ofString "\n" }]
  exports :=
    [{ fits := [Bytes.ofString "--section=pre-data"]
       reply := Bytes.ofString "CREATE TABLE s.t" ++ [233] ++ Bytes.ofString " (\n);\n" }]

/-- The start of a dump of that database. -/
def accentedStart : World Rehearsal.Rules where
  tools := accentedRules
  files := { entries := [], workPlace := [] }

/-- The rows that are dumped of the recoded database hold the other letter. -/
theorem write_recodes_accents :
    (write Rehearsal.Rules.responder.amongTools {} "1.0" accentedStart).1 =
        .ok ⟨"1.0", 1, 0, 0, 5⟩ ∧
      Recodes accents (write Rehearsal.Rules.responder.amongTools {} "1.0" accentedStart)
        (write (Rehearsal.Rules.responder.amongTools.recoded accents) {} "1.0"
          (accentedStart.recoded accents)) := by
  refine ⟨by decide +kernel, ?_⟩
  exact write_recodes accents _ (by decide) (by decide) accentedStart rfl

end Script

end MaskedDump
