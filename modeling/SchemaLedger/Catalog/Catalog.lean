import SchemaLedger.Catalog.Request

namespace SchemaLedger

/-- The rows of one subject. -/
structure Shelf where
  entry : Option Entry
  versions : Table UInt32 Snapshot
  artifacts : List Artifact
  remarks : Table String Remark

namespace Shelf

def empty : Shelf := ⟨none, .empty, [], .empty⟩

instance : Inhabited Shelf := ⟨empty⟩

def counts (shelf : Shelf) : RowCounts :=
  ⟨if shelf.entry.isSome then 1 else 0, shelf.versions.size, shelf.artifacts.length,
    shelf.remarks.size⟩

/-- A version that is already there stays as it is. The mark rises to the version in either case. -/
def put (shelf : Shelf) (snapshot : Snapshot) : PutOutcome × Shelf :=
  let entry := shelf.entry.getD (.fresh snapshot.subject)
  let mark := match entry.mark with
    | none => snapshot.version
    | some mark => max mark snapshot.version
  let entry := some { entry with mark := some mark }
  if shelf.versions.contains snapshot.version then
    (.alreadyPresent, { shelf with entry := entry })
  else
    (.inserted,
      { shelf with entry := entry, versions := shelf.versions.insert snapshot.version snapshot })

end Shelf

/-- A subject has a shelf when it has a row. -/
structure Catalog where
  shelves : Table String Shelf

namespace Catalog

def empty : Catalog := ⟨.empty⟩

instance : Inhabited Catalog := ⟨empty⟩

def shelf (catalog : Catalog) (subject : String) : Shelf :=
  (catalog.shelves.find? subject).getD .empty

def setShelf (catalog : Catalog) (subject : String) (shelf : Shelf) : Catalog :=
  ⟨catalog.shelves.insert subject shelf⟩

def mark (catalog : Catalog) (subject : String) : Option UInt32 :=
  (catalog.shelf subject).entry.bind (·.mark)

def put (catalog : Catalog) (snapshot : Snapshot) : PutOutcome × Catalog :=
  let (outcome, shelf) := (catalog.shelf snapshot.subject).put snapshot
  (outcome, catalog.setShelf snapshot.subject shelf)

/-- Only a subject with an entry is changed. -/
def update (catalog : Catalog) (subject : String) (change : EntryUpdate) : Bool × Catalog :=
  let shelf := catalog.shelf subject
  match shelf.entry with
  | none => (false, catalog)
  | some entry => (true, catalog.setShelf subject { shelf with entry := some (change.apply entry) })

def known (catalog : Catalog) : Names :=
  Names.ofList catalog.shelves.keys

def count (catalog : Catalog) (subjects : Names) : RowCounts :=
  (catalog.shelves.restrict subjects.contains).entries.foldl
    (fun counts (_, shelf) => counts.add shelf.counts) .zero

def remove (catalog : Catalog) (subjects : Names) : RowCounts × Catalog :=
  (catalog.count subjects, ⟨catalog.shelves.restrict fun s => !subjects.contains s⟩)

def entries (catalog : Catalog) : List Entry :=
  catalog.shelves.entries.filterMap fun (_, shelf) => shelf.entry

def attach (catalog : Catalog) (artifact : Artifact) : Catalog :=
  let shelf := catalog.shelf artifact.subject
  catalog.setShelf artifact.subject { shelf with artifacts := shelf.artifacts ++ [artifact] }

/-- A remark replaces the one under the same key. -/
def annotate (catalog : Catalog) (remark : Remark) : Catalog :=
  let shelf := catalog.shelf remark.subject
  catalog.setShelf remark.subject { shelf with remarks := shelf.remarks.insert remark.key remark }

/-- Carries out a request; in memory none fails. -/
def perform (catalog : Catalog) : (request : Request) → request.Answer × Catalog
  | .mark subject => (catalog.mark subject, catalog)
  | .put snapshot => catalog.put snapshot
  | .update subject change => catalog.update subject change
  | .known => (catalog.known, catalog)
  | .count subjects => (catalog.count subjects, catalog)
  | .remove subjects => catalog.remove subjects
  | .entry subject => ((catalog.shelf subject).entry, catalog)
  | .entries => (catalog.entries, catalog)
  | .snapshot subject version => ((catalog.shelf subject).versions.find? version, catalog)
  | .versions subject => ((catalog.shelf subject).versions.keys, catalog)
  | .attach artifact => ((), catalog.attach artifact)
  | .annotate remark => ((), catalog.annotate remark)

def keeper : Keeper Catalog := fun request catalog =>
  let (answer, catalog) := catalog.perform request
  (.ok answer, catalog)

end Catalog

end SchemaLedger
