import SchemaLedger.Sync.Program

namespace SchemaLedger

/-- The subjects that were removed and the rows that went with them. -/
structure Removal where
  subjects : Names
  rows : RowCounts

def Removal.none : Removal := ⟨.empty, .zero⟩

namespace Program

/-- The subjects of the catalog that are not listed. -/
def stale (listed : Names) : Program (Except StoreError Names) := do
  match ← store .known with
  | .error error => pure (.error error)
  | .ok known => pure (.ok (known.without listed))

/-- With nothing stale the catalog is neither counted nor changed. -/
def reconcile (listed : Names) : Program (Except StoreError Removal) := do
  match ← stale listed with
  | .error error => pure (.error error)
  | .ok stale =>
    if stale.size = 0 then pure (.ok .none)
    else
      match ← store (.count stale) with
      | .error error => pure (.error error)
      | .ok preview =>
        report (.removing stale.size preview.versions preview.artifacts preview.remarks)
        match ← store (.remove stale) with
        | .error error => pure (.error error)
        | .ok rows =>
          report (.removed stale.size rows.versions rows.artifacts rows.remarks)
          pure (.ok ⟨stale, rows⟩)

end Program

end SchemaLedger
