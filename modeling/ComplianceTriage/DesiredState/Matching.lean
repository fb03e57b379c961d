import ComplianceTriage.DesiredState.Index
import ComplianceTriage.Message.Verdict

/-!
# Pairing a message with what is wanted

Messages name resources by plural types where templates name kinds, and often leave the name out. A
message of a template is paired with a declaration in three tiers: kind and name agree; the kind
agrees loosely and the name agrees or is missing; the template wants a single resource, which must
then be the one. Within a tier the first declaration in the order of keys is taken.
-/

namespace ComplianceTriage.DesiredState

/-- How a declaration was found. -/
inductive Tier where
  | exact
  | flexible
  | soleTemplateEntry
deriving DecidableEq, Repr

/-- The name of a tier. -/
def Tier.label : Tier → String
  | exact => "Exact"
  | flexible => "Flexible"
  | soleTemplateEntry => "SoleTemplateEntry"

/-- Template and name agree, and the kinds differ at most in the case of ASCII letters. -/
def Key.agreesExactly (key : Key) (template kind name : String) : Bool :=
  key.template = template && Text.sameUpToAsciiCase key.kind kind && key.name = name

/-- Templates agree, kinds agree loosely, and the name agrees or is missing. -/
def Key.agreesFlexibly (key : Key) (template kind name : String) : Bool :=
  key.template = template && Kind.agreeLoosely key.kind kind && (name = "" || key.name = name)

/-- The declaration that a message of a template is about, and how it was found. -/
def find? (state : DesiredState) (template kind name : String) : Option (Value × Tier) :=
  match state.entries.find? fun entry => entry.1.agreesExactly template kind name with
  | some (_, value) => some (value, .exact)
  | none =>
    match state.entries.find? fun entry => entry.1.agreesFlexibly template kind name with
    | some (_, value) => some (value, .flexible)
    | none =>
      match state.ofTemplate template with
      -- With a single resource there is nothing to choose.
      | [(_, value)] => some (value, .soleTemplateEntry)
      | _ => none

end ComplianceTriage.DesiredState
