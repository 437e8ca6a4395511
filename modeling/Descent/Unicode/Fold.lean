import Descent.Unicode.Packed
import Descent.Unicode.FoldTable

/-!
# Letter cases

Characters that differ only in case form a group, such as `k`, `K` and the Kelvin sign. Most
characters are alone. A set is closed under case by adding the whole group of each of its members.
-/

namespace Descent.Unicode

/-- The groups of characters that differ only in case. -/
def foldGroups : List (List Nat) := (Packed.split foldTable).map Packed.group

/-- The set of a group's characters. -/
def groupSet (group : List Nat) : CharSet :=
  CharSet.ofList (group.map Char.ofNat)

/-- The groups with a member in a set. -/
def groupsMeeting (s : CharSet) : List (List Nat) :=
  foldGroups.filter fun group => group.any (CharSet.inside s.breaks)

/-- The set with all cases of its characters. -/
def closeUnderCase (s : CharSet) : CharSet :=
  ((groupsMeeting s).filter fun group => !group.all (CharSet.inside s.breaks)).foldl
    (fun s group => s.union (groupSet group)) s

/-- The set of ASCII characters with both cases of its letters. -/
def closeUnderAsciiCase (s : CharSet) : CharSet :=
  let lower := CharSet.ofList
    ((List.range 26).filterMap fun i =>
      if CharSet.inside s.breaks (65 + i) then some (Char.ofNat (97 + i)) else none)
  let upper := CharSet.ofList
    ((List.range 26).filterMap fun i =>
      if CharSet.inside s.breaks (97 + i) then some (Char.ofNat (65 + i)) else none)
  (s.union lower).union upper

end Descent.Unicode
