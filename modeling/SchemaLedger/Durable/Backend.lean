import SchemaLedger.Catalog.Catalog
import SchemaLedger.Durable.Opening

namespace SchemaLedger

inductive Backend
  | memory (catalog : Catalog)
  | durable (database : Database)

def Backend.keeper : Keeper Backend
  | request, .memory catalog =>
    let (answer, catalog) := Catalog.keeper request catalog
    (answer, .memory catalog)
  | request, .durable database =>
    let (answer, database) := Database.keeper request database
    (answer, .durable database)

end SchemaLedger
