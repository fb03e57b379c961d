/-!
# Settings of a triage

The few numbers and names that a triage can be tuned by.
-/

namespace ComplianceTriage

/-- How a triage is tuned. -/
structure Settings where
  /-- The number of characters of a message that a report keeps. -/
  messageLimit : Nat := 300
  /-- The number of fetches that may be in flight at once; none counts as one. -/
  fetchLimit : Nat := 4
  /-- The server that offers the suggested tools. -/
  server : String := "openshift-mcp-server"
  /-- The namespace of a subscription that nothing says where to find. -/
  operatorNs : String := "openshift-operators"
deriving DecidableEq, Repr, Inhabited

/-- The number of fetches that are in flight at once. -/
def Settings.window (settings : Settings) : Nat :=
  max 1 settings.fetchLimit

end ComplianceTriage
