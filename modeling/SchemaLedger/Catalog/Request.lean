import SchemaLedger.Catalog.Error
import SchemaLedger.Catalog.Record
import SchemaLedger.Table

namespace SchemaLedger

inductive Request
  | mark (subject : String)
  | put (snapshot : Snapshot)
  | update (subject : String) (change : EntryUpdate)
  | known
  | count (subjects : Names)
  | remove (subjects : Names)
  | entry (subject : String)
  | entries
  | snapshot (subject : String) (version : UInt32)
  | versions (subject : String)
  | attach (artifact : Artifact)
  | annotate (remark : Remark)

/-- What a request is answered with. An update says whether there was an entry to change. -/
@[reducible] def Request.Answer : Request → Type
  | mark _ => Option UInt32
  | put _ => PutOutcome
  | update _ _ => Bool
  | known => Names
  | count _ => RowCounts
  | remove _ => RowCounts
  | entry _ => Option Entry
  | entries => List Entry
  | snapshot _ _ => Option Snapshot
  | versions _ => List UInt32
  | attach _ => Unit
  | annotate _ => Unit

/-- Something that carries out requests and may fail to. -/
def Keeper (σ : Type) : Type :=
  (request : Request) → σ → Except StoreError request.Answer × σ

end SchemaLedger
