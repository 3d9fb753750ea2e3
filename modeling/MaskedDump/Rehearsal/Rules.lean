import MaskedDump.Run.Basic

/-!
# Collaborators that answer by rules

In a rehearsal the collaborators can be played by rules. A call is answered by the first rule that
still has uses left and fits the call, and by an empty reply when there is none. A rule may fail; a
streaming call then still delivers the reply first.
-/

namespace MaskedDump.Rehearsal

/-- A rule: what it fits, its reply, its failure if it has one, and how often it may still be used,
if that is bounded. -/
structure Rule (κ : Type) where
  fits : κ
  reply : Bytes := []
  failure : Option Failure := none
  left : Option Nat := none

namespace Rule

variable {κ : Type}

/-- A rule after one more use. -/
def used (rule : Rule κ) : Rule κ := { rule with left := rule.left.map (· - 1) }

/-- The first usable rule that fits, and the rules after its use. -/
def select (fits : κ → Bool) : List (Rule κ) → Option (Rule κ) × List (Rule κ)
  | [] => (none, [])
  | rule :: rest =>
    if rule.left ≠ some 0 ∧ fits rule.fits then (some rule, rule.used :: rest)
    else
      let (found, rest) := select fits rest
      (found, rule :: rest)

/-- The reply to a call whose result is asked for. -/
def replyOf : Option (Rule κ) → Reply
  | none => { result := .ok [] }
  | some rule =>
    match rule.failure with
    | some failure => { result := .error failure }
    | none => { result := .ok rule.reply }

/-- What is streamed in answer to a call. -/
def deliveryOf : Option (Rule κ) → Delivery
  | none => { bytes := [], ending := .ok () }
  | some rule =>
    { bytes := rule.reply
      ending := match rule.failure with
        | some failure => .error failure
        | none => .ok () }

end Rule

/-- The rules of both collaborators. A rule for statements fits those that hold its text; a rule for
exports fits those that have all its arguments. -/
structure Rules where
  statements : List (Rule Bytes) := []
  exports : List (Rule (List Bytes)) := []

namespace Rules

/-- Selects the rule for a statement. -/
def forStatement (rules : Rules) (sql : Bytes) : Option (Rule Bytes) × Rules :=
  let (found, statements) := Rule.select (fun text => Bytes.occursIn text sql) rules.statements
  (found, { rules with statements })

/-- Selects the rule for an export. -/
def forExport (rules : Rules) (args : List Bytes) : Option (Rule (List Bytes)) × Rules :=
  let (found, exports) := Rule.select (fun flags => flags.all args.contains) rules.exports
  (found, { rules with exports })

/-- Answers by rules. -/
def responder : Responder Rules where
  query sql rules :=
    let (found, rules) := rules.forStatement sql
    (Rule.replyOf found, rules)
  copyOut sql rules :=
    let (found, rules) := rules.forStatement sql
    (Rule.deliveryOf found, rules)
  dump args rules :=
    let (found, rules) := rules.forExport args
    (Rule.replyOf found, rules)
  dumpInto args rules :=
    let (found, rules) := rules.forExport args
    (Rule.deliveryOf found, rules)

end Rules

end MaskedDump.Rehearsal
