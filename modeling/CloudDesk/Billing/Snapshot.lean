import CloudDesk.Calendar.Instant
import CloudDesk.Table
import CloudDesk.Taxonomy.Kind

namespace CloudDesk

instance floatZero : Zero Float := ⟨0.0⟩

/-- The sum from the left, from zero on, so that no amounts sum up to `0.0` and never to `-0.0`. -/
def total {α : Type} [Zero α] [Add α] (xs : List α) : α := xs.foldl (· + ·) 0

structure Snapshot (α : Type) where
  currency : String
  syncedAt : Option Instant
  owners : Table (Table α)
  deriving DecidableEq

namespace Snapshot

variable {α : Type} [Zero α] [Add α]

def empty (currency : String) (syncedAt : Option Instant) : Snapshot α :=
  ⟨currency, syncedAt, Table.empty⟩

def kindsOf (s : Snapshot α) (owner : String) : Table α := (s.owners.get? owner).getD Table.empty

def accumulate (t : Table α) (name : String) (amount : α) : Table α :=
  t.put name ((t.get? name).getD 0 + amount)

def add (s : Snapshot α) (owner kind : String) (amount : α) : Snapshot α :=
  { s with owners := s.owners.put owner (accumulate (s.kindsOf owner) (Kind.canonical kind) amount) }

def touch (s : Snapshot α) (owner : String) : Snapshot α :=
  { s with owners := s.owners.put owner (s.kindsOf owner) }

def ownerTotal (s : Snapshot α) (owner : String) : α := CloudDesk.total (s.kindsOf owner).values

def total (s : Snapshot α) : α := CloudDesk.total (s.owners.names.map s.ownerTotal)

inductive Entry (α : Type)
  | amount (owner kind : String) (value : α)
  | owner (owner : String)

def enter (s : Snapshot α) : Entry α → Snapshot α
  | .amount owner kind value => s.add owner kind value
  | .owner owner => s.touch owner

def enterAll (s : Snapshot α) (entries : List (Entry α)) : Snapshot α := entries.foldl enter s

end Snapshot

end CloudDesk
