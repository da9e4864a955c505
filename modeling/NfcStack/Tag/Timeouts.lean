import NfcStack.Config
/-!
# Timeout table

How long an exchange may take, per technology. The configured values stand until they are set, and
again after a reset.
-/

namespace NfcStack

structure TimeoutTable where
  defaults : TagTimeouts
  entries : Vector UInt64 Technology.tableSize
  deriving DecidableEq, Repr

namespace TimeoutTable

def ofDefaults (defaults : TagTimeouts) : TimeoutTable :=
  { defaults, entries := Vector.ofFn fun index => defaults.forTechnology (Technology.ofIndex index) }

instance : Inhabited TimeoutTable := ⟨ofDefaults {}⟩

/-- The unknown technology has no entry and gets the configured fallback. -/
def get (table : TimeoutTable) (technology : Technology) : UInt64 :=
  match technology.index? with
  | some index => table.entries.get index
  | none => table.defaults.fallback

/-- Sets an entry. The unknown technology has none. -/
def set? (table : TimeoutTable) (technology : Technology) (bound : UInt64) : Option TimeoutTable :=
  match technology.index? with
  | some index => some { table with entries := table.entries.set index bound index.isLt }
  | none => none

def reset (table : TimeoutTable) : TimeoutTable :=
  ofDefaults table.defaults

end TimeoutTable

end NfcStack
