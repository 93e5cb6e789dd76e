import SnapshotSuite.Toolbox.Octets
/-!
# Limits of processes

What a process may use of each resource. The soft limit is the one that counts; a process may set it
up to the hard one, and the hard one only lower. Processes begin with the limits of the one that
starts them.
-/

namespace SnapshotSuite

namespace Toolbox

/-- A limit. -/
structure Limit where
  /-- The letter of the resource. -/
  letter : Char
  /-- Its name, with the unit in which it is counted. -/
  name : Octets
  /-- The unit. -/
  unit : Nat
  /-- How much may be used now, without end if nothing is said. -/
  soft : Option Nat
  /-- How far that may be raised. -/
  hard : Option Nat

namespace Limit

/-- The limits with which everything begins. -/
def standard : List Limit :=
  [⟨'t', "time(seconds)", 1, none, none⟩, ⟨'f', "file(blocks)", 512, none, none⟩,
    ⟨'d', "data(kbytes)", 1024, none, none⟩, ⟨'s', "stack(kbytes)", 1024, some 8388608, none⟩,
    ⟨'c', "coredump(blocks)", 512, some 0, none⟩, ⟨'m', "memory(kbytes)", 1024, none, none⟩,
    ⟨'l', "locked memory(kbytes)", 1024, some 8388608, some 8388608⟩,
    ⟨'p', "process", 1, none, none⟩, ⟨'n', "nofiles", 1, some 1048576, some 1048576⟩,
    ⟨'v', "vmemory(kbytes)", 1024, none, none⟩, ⟨'w', "locks", 1, none, none⟩,
    ⟨'r', "rtprio", 1, some 0, some 0⟩]

/-- The words for an amount, in whole units. -/
def words (limit : Limit) : Option Nat → Octets
  | none => "unlimited"
  | some n => toString (n / limit.unit)

/-- Whether an amount is more than another one. -/
def exceeds (a b : Option Nat) : Bool :=
  match a, b with
  | some a, some b => b < a
  | none, some _ => true
  | _, none => false

end Limit

end Toolbox

end SnapshotSuite
