import ComplianceTriage.Failure
import ComplianceTriage.Hub.Store
import ComplianceTriage.Manifest.Meaning

/-!
# A hub from manifests

Manifests are put into a store document by document. A document that says nothing adds nothing. When
a manifest has a fault, the documents before it stay in the store (`Store.load`), but a hub is made
of manifests only if none has one (`Store.ofManifests`).
-/

namespace ComplianceTriage

/-- The content of a file, or why it cannot be read as text. -/
abbrev FileText := Except FileError String

namespace Store

/-- Puts the documents of a manifest into the store, and tells what went wrong, if anything did. -/
def load (store : Store) (file : FileText) : Store × Option Failure :=
  match file with
  | .error cause => (store, some (.file cause))
  | .ok text =>
    let read := Manifest.Values.ofText text.toList
    (store.insertAll read.values, read.fault.map fun fault => .manifest fault.message)

/-- The store with the documents of a manifest that has no fault. -/
def loaded (store : Store) (file : FileText) : Except Failure Store :=
  match store.load file with
  | (store, none) => .ok store
  | (_, some failure) => .error failure

/-- The store of the documents of several manifests, in order; the first fault is told. -/
def ofManifests (files : List FileText) : Except Failure Store :=
  files.foldlM loaded empty

end Store

end ComplianceTriage
