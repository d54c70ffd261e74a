/-
# Tables with a fixed number of slots

Numbers are kept under keys in a table that does not grow. A fingerprint of the key says in which
slot an entry is kept, and a new entry takes the slot of an older one. So a number that was kept
may be gone, but one that is found was kept under the same key.
-/

import Std.Data.TreeMap

namespace HeaderSearch.Pattern

/-- The fingerprint of a key: one number is mixed in after the other, and the product is taken
modulo 2 ^ 64. -/
def fingerprint (key : List UInt64) : UInt64 :=
  key.foldl (fun mixed number => (mixed ^^^ number) * 1099511628211) 14695981039346656037

/-- A table with a fixed number of slots. One that is taken holds a key and a number. -/
structure SlotTable where
  slotCount : UInt64
  slots : Std.TreeMap UInt64 (List UInt64 × UInt64)

namespace SlotTable

def empty (slotCount : UInt64) : SlotTable := ⟨slotCount, ∅⟩

def slotOf (table : SlotTable) (key : List UInt64) : UInt64 := fingerprint key % table.slotCount

def find? (table : SlotTable) (key : List UInt64) : Option UInt64 :=
  (table.slots.get? (table.slotOf key)).bind fun entry =>
    if entry.1 = key then some entry.2 else none

/-- Keep a number under a key. What was in its slot is lost. -/
def insert (table : SlotTable) (key : List UInt64) (number : UInt64) : SlotTable :=
  { table with slots := table.slots.insert (table.slotOf key) (key, number) }

end SlotTable

end HeaderSearch.Pattern
