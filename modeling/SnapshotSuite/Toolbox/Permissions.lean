import SnapshotSuite.Toolbox.Octets
/-!
# Permissions of files

Three bits for each of three owners: to read, to write and to run. A change of them is written in
digits of base eight, or as clauses: letters for owners, and signs that give, take or set what the
letters behind them name.
-/

namespace SnapshotSuite

namespace Toolbox

/-- Digits of base eight with noughts in front. -/
def paddedOctal (width n : Nat) : Octets :=
  let digits := Nat.toDigits 8 n
  String.ofList (List.replicate (width - digits.length) '0' ++ digits)

/-- The permissions in letters, as they are listed. -/
def listedPermissions (bits : Nat) : Octets :=
  String.ofList (([0o400, 0o200, 0o100, 0o40, 0o20, 0o10, 4, 2, 1].zip "rwxrwxrwx".toList).map
    fun (bit, letter) => if bits &&& bit = 0 then '-' else letter)

/-- One bit for each owner that letters name. -/
def ownerBits (letters : List Char) : Nat :=
  letters.foldl (fun bits c =>
    bits ||| if c = 'u' then 0o100 else if c = 'g' then 0o010 else if c = 'o' then 1 else 0o111) 0

/-- What a change gives or takes. -/
inductive Grant where
  /-- The permissions of letters, and that to run if somebody has it already. -/
  | letters (bits : Nat) (keepsRunning : Bool)
  /-- What the owner has whose bits end at a place. -/
  | copy (place : Nat)
deriving DecidableEq, Repr

/-- The permissions of one owner that are meant, where some are given already. -/
def Grant.bits (given : Nat) : Grant → Nat
  | .letters bits keepsRunning => if keepsRunning ∧ given &&& 0o111 ≠ 0 then bits ||| 1 else bits
  | .copy place => given / place % 8

/-- A change of permissions. -/
structure PermissionChange where
  /-- One bit for each owner; nobody in particular if there are none. -/
  owners : Nat
  /-- The sign. -/
  sign : Char
  /-- What is given or taken. -/
  grant : Grant
deriving DecidableEq, Repr

namespace PermissionChange

/-- The permissions behind a change. Where nobody in particular is named, a mask holds back what new
files do not get. -/
def apply (mask given : Nat) (change : PermissionChange) : Nat :=
  let isOpen := change.owners = 0
  let bits := change.grant.bits given * (if isOpen then 0o111 else change.owners)
  let bits := if isOpen then bits &&& (0o777 - mask) else bits
  if change.sign = '-' then given &&& (0o777 - bits)
  else if change.sign = '+' then given ||| bits
  else if isOpen then bits
  else (given &&& (0o777 - change.owners * 7)) ||| bits

/-- What letters name, and the text behind them. -/
def readGrant (cs : List Char) : Grant × List Char :=
  match cs with
  | 'u' :: rest => (.copy 0o100, rest)
  | 'g' :: rest => (.copy 0o10, rest)
  | 'o' :: rest => (.copy 1, rest)
  | cs =>
    let letters := cs.takeWhile "rwxXst".toList.contains
    let bit (c : Char) : Nat := if c = 'r' then 4 else if c = 'w' then 2 else if c = 'x' then 1 else 0
    (.letters (letters.foldl (fun bits c => bits ||| bit c) 0) (letters.contains 'X'),
      cs.drop letters.length)

/-- The changes that a text writes; `none` if it is not written right. Owners stay until a comma.
`fuel` bounds the length of the text. -/
def readClauses : (fuel : Nat) → (owners? : Option Nat) → List Char → Option (List PermissionChange)
  | 0, _, _ => none
  | fuel + 1, none, cs =>
    let letters := cs.takeWhile "ugoa".toList.contains
    match cs.drop letters.length with
    | [] => none
    | c :: rest =>
      if "+-=".toList.contains c then readClauses fuel (some (ownerBits letters)) (c :: rest)
      else none
  | _, some _, [] => some []
  | fuel + 1, some owners, c :: cs =>
    if c = ',' then readClauses fuel none cs
    else if "+-=".toList.contains c then
      let (grant, rest) := readGrant cs
      (readClauses fuel (some owners) rest).map (⟨owners, c, grant⟩ :: ·)
    else none

end PermissionChange

/-- A function from the permissions that files have to those that a text asks for; `none` if the
text is not written right. -/
def permissions? (mask : Nat) (text : List Char) : Option (Nat → Nat) :=
  if text ≠ [] ∧ text.all (fun c => '0' ≤ c && c ≤ '7') then
    let bits := text.foldl (fun n c => n * 8 + (c.toNat - 48)) 0
    if 0o7777 < bits then none else some fun _ => bits % 0o1000
  else
    (PermissionChange.readClauses (2 * text.length + 2) none text).map fun changes given =>
      changes.foldl (PermissionChange.apply mask) given

end Toolbox

end SnapshotSuite
