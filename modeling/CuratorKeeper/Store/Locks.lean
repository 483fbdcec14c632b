import CuratorKeeper.Program.Basic

/-! # Locks

One lock for each object, made when it is first asked for and kept until it is forgotten.
-/
namespace CuratorKeeper

/-- The locks by key, and whether each is held. -/
structure LockTable where
  entries : List (String × Bool) := []
  deriving DecidableEq

namespace LockTable

def isHeld (locks : LockTable) (key : String) : Bool := (locks.entries.lookup key).getD false

/-- Set a lock: in its place if it is there, else at the end. -/
def setEntry (key : String) (held : Bool) : List (String × Bool) → List (String × Bool)
  | [] => [(key, held)]
  | entry :: rest =>
    if entry.1 = key then (key, held) :: rest else entry :: setEntry key held rest

def set (locks : LockTable) (key : String) (held : Bool) : LockTable :=
  ⟨setEntry key held locks.entries⟩

/-- Do something with a lock. Whoever waits for a lock gets it in the end. -/
def act (locks : LockTable) (key : String) : (action : LockAction) → action.Reply × LockTable
  | .hold => ((), locks.set key true)
  | .tryHold => (!locks.isHeld key, locks.set key true)
  | .release => ((), locks.set key false)
  | .forget => ((), ⟨locks.entries.filter fun entry => entry.1 ≠ key⟩)

theorem lookup_setEntry_self (key : String) (held : Bool) (entries : List (String × Bool)) :
    (setEntry key held entries).lookup key = some held := by
  induction entries with
  | nil => simp [setEntry]
  | cons entry rest ih =>
    obtain ⟨other, before⟩ := entry
    by_cases h : other = key
    · simp [setEntry, h]
    · simp [setEntry, h, List.lookup_cons, ih, beq_false_of_ne (Ne.symm h)]

theorem lookup_setEntry_of_ne {key other : String} (different : other ≠ key) (held : Bool)
    (entries : List (String × Bool)) :
    (setEntry key held entries).lookup other = entries.lookup other := by
  induction entries with
  | nil => simp [setEntry, List.lookup_cons, beq_false_of_ne different]
  | cons entry rest ih =>
    obtain ⟨present, before⟩ := entry
    by_cases h : present = key
    · subst h
      simp [setEntry, List.lookup_cons, beq_false_of_ne different]
    · simp [setEntry, h, List.lookup_cons, ih]

@[simp]
theorem isHeld_set_self (locks : LockTable) (key : String) (held : Bool) :
    (locks.set key held).isHeld key = held := by
  simp [isHeld, set, lookup_setEntry_self]

end LockTable
end CuratorKeeper
