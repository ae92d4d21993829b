import Mathlib.Data.List.Basic
import Obliance.Lib.Numerals
import Obliance.Updates.Service

/-!
# The updates the agent reports (`src/agent/updates.go`)

* `scanAptUpdates` : the lines of `apt list --upgradable`, each update named after its package.
-/

namespace Obliance.Agent
open Numerals
open Obliance.Updates (ReportedUpdate)

/-- `unicode.IsSpace` -/
def isGoSpace (c : Char) : Bool :=
  c ∈ [' ', '\t', '\n', '\x0b', '\x0c', '\r', '\u0085', '\u00a0', '\u1680', '\u2028', '\u2029', '\u202f', '\u205f',
    '\u3000'] || ('\u2000' ≤ c && c ≤ '\u200a')

/-- `strings.Fields` -/
def fields (cs : List Char) : List (List Char) := (cs.splitOnP isGoSpace).filter (· ≠ [])

/-- A line of the form `packagename/release version arch [upgradable from: old]`. -/
def aptUpdate (line : List Char) : Option ReportedUpdate :=
  let line := strip isGoSpace line
  if line = [] ∨ "Listing...".toList <+: line ∨ '/' ∉ line then none
  else
    let pkgName := line.takeWhile (· ≠ '/')
    let rest := (line.dropWhile (· ≠ '/')).tail
    let newVersion := ((fields rest)[1]?).getD []
    some
      { updateUid := String.ofList pkgName
        title := some (String.ofList (pkgName ++ ' ' :: newVersion))
        description := none
        severity := some "moderate"
        category := none
        source := some "apt"
        sizeBytes := none
        requiresReboot := some false }

def scanAptUpdates (out : String) : List ReportedUpdate := (out.toList.splitOn '\n').filterMap aptUpdate

end Obliance.Agent
