import ComplianceTriage.Text.Lower
import ComplianceTriage.Text.Search

/-!
# Verdicts on a message

What is wrong with a resource is decided by phrases. The rules are tried in order on the
lower-cased message, and the first one of whose phrases occurs gives the verdict. Whether a kind
belongs to an operator's install chain is decided by its name alone.
-/

namespace ComplianceTriage

/-- What a message says is wrong. -/
inductive Verdict where
  /-- The resource does not exist. -/
  | resourceMissing
  /-- The resource exists and differs from what is wanted. -/
  | resourceDrift
  /-- An operator's install chain has not come to its end. -/
  | olmStuck
  /-- The cluster does not serve the kind. -/
  | crdMissing
  /-- No rule knows the message. -/
  | unknown
deriving DecidableEq, Repr, Inhabited

namespace Verdict

/-- The name of a verdict in reports. -/
def label : Verdict → String
  | resourceMissing => "resource_missing"
  | resourceDrift => "resource_drift"
  | olmStuck => "olm_stuck"
  | crdMissing => "crd_missing"
  | unknown => "unknown"

/-- All verdicts, the one whose rule comes first in front. -/
def all : List Verdict := [resourceMissing, resourceDrift, olmStuck, crdMissing, unknown]

/-- The verdict of a name. -/
def ofLabel? (s : String) : Option Verdict :=
  all.find? fun verdict => verdict.label = s

/-- A verdict is found again by its name. -/
@[simp]
theorem ofLabel?_label (verdict : Verdict) : ofLabel? verdict.label = some verdict := by
  cases verdict <;> rfl

end Verdict

namespace Message

open Text

/-- A rule: the verdict, and the phrases of which one must occur. -/
structure Rule where
  id : String
  phrases : List String
  verdict : Verdict

/-- The rules, the first to be tried first. -/
def rules : List Rule :=
  [⟨"missing", ["not found"], .resourceMissing⟩,
    ⟨"drift", ["not as specified"], .resourceDrift⟩,
    ⟨"olm-chain", ["installplan", "clusterserviceversion"], .olmStuck⟩,
    ⟨"kind-not-served",
      ["no matches for kind", "could not find the requested resource",
        "the server doesn't have a resource type"], .crdMissing⟩]

/-- Whether a lower-cased message satisfies the rule. -/
def Rule.matches (rule : Rule) (lowered : List Char) : Bool :=
  rule.phrases.any fun phrase => occurs phrase.toList lowered

/-- The rules that a message satisfies. -/
def rulesMatching (message : String) : List Rule :=
  let lowered := lower message.toList
  rules.filter fun rule => rule.matches lowered

/-- The verdict on a message: that of the first rule that it satisfies. -/
def verdict (message : String) : Verdict :=
  let lowered := lower message.toList
  match rules.find? fun rule => rule.matches lowered with
  | some rule => rule.verdict
  | none => .unknown

/-- The verdict is that of the first matching rule. -/
theorem verdict_eq_head_rulesMatching (message : String) :
    verdict message = ((rulesMatching message).head?.map Rule.verdict).getD .unknown := by
  simp only [verdict, rulesMatching, List.head?_filter]
  cases rules.find? fun rule => rule.matches (lower message.toList) <;> rfl

end Message

namespace Kind

open Text

/-- The kinds of an operator's install chain, by kind, plural and full plural name. -/
def olmKinds : List String :=
  ["Subscription", "subscriptions", "subscriptions.operators.coreos.com",
    "ClusterServiceVersion", "clusterserviceversions",
    "clusterserviceversions.operators.coreos.com",
    "Operator", "operators", "operators.operators.coreos.com",
    "InstallPlan", "installplans", "installplans.operators.coreos.com",
    "CatalogSource", "catalogsources", "catalogsources.operators.coreos.com"]

/-- The names of the kind that aggregates all that belongs to one subscription. -/
def operatorKinds : List String :=
  ["Operator", "operators", "operators.operators.coreos.com"]

/-- Whether a kind belongs to an operator's install chain. -/
def isOlm (kind : String) : Bool :=
  olmKinds.any fun known => sameUpToAsciiCase known kind

/-- Whether a kind is the aggregate of a subscription. -/
def isOperator (kind : String) : Bool :=
  operatorKinds.any fun known => sameUpToAsciiCase known kind

/-- Whether two kinds are the same but for letter case and an `s` or `es` at the end of one. -/
def agreeLoosely (declared reported : String) : Bool :=
  let d := lower declared.toList
  let r := lower reported.toList
  d = r || r = d ++ ['s'] || r = d ++ ['e', 's'] || d = r ++ ['s'] || d = r ++ ['e', 's']

end Kind

end ComplianceTriage
