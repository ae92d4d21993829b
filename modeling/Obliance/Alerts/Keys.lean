import Mathlib.Data.List.Basic
import Mathlib.Tactic.Common

/-!
# Incidents and their stable keys (`services/liveAlert.service.ts`)

* `incidentStableKeys` : every stable key of an incident, `device:{id}:{suffix}`;
* `parseIncidentStableKey` : the incident of a stable key;
* `parse_of_mem_keys` : a key of an incident is parsed back to it, so no key has two incidents.
-/

namespace Obliance.Alerts

inductive IncidentKind where
  | metric
  | offline
  | diskhealth
  | duplicateAgentId
  deriving DecidableEq, Repr

structure IncidentRef where
  kind : IncidentKind
  deviceId : ℕ
  deriving DecidableEq, Repr

def incidentKeySuffixes : IncidentKind → List String
  | .metric => ["metric:warning", "metric:critical"]
  | .offline => ["offline"]
  | .diskhealth => ["diskhealth:caution", "diskhealth:bad"]
  | .duplicateAgentId => ["duplicate_agent_id"]

def incidentKinds : List IncidentKind := [.metric, .offline, .diskhealth, .duplicateAgentId]

def incidentStableKeys (inc : IncidentRef) : List String :=
  (incidentKeySuffixes inc.kind).map fun suffix => "device:" ++ toString inc.deviceId ++ ":" ++ suffix

/-- `/^device:(\d+):(.+)$/` on the characters: the digits and the rest. -/
def matchDeviceKey : List Char → Option (List Char × List Char)
  | 'd' :: 'e' :: 'v' :: 'i' :: 'c' :: 'e' :: ':' :: rest =>
      match rest.takeWhile Char.isDigit, rest.dropWhile Char.isDigit with
      | d :: ds, ':' :: suffix => some (d :: ds, suffix)
      | _, _ => none
  | _ => none

/-- The incident a stable key belongs to, or none. -/
def parseIncidentStableKey (stableKey : Option String) : Option IncidentRef :=
  match stableKey.bind fun key => matchDeviceKey key.toList with
  | none => none
  | some (digits, suffix) =>
      (incidentKinds.find? fun kind => String.ofList suffix ∈ incidentKeySuffixes kind).map fun kind =>
        ⟨kind, Nat.ofDigitChars 10 digits 0⟩

/-! ## A key of an incident is parsed back to it -/

theorem takeWhile_digits (d : ℕ) (rest : List Char) :
    ((toString d).toList ++ ':' :: rest).takeWhile Char.isDigit = (toString d).toList ∧
      ((toString d).toList ++ ':' :: rest).dropWhile Char.isDigit = ':' :: rest := by
  have hdigits : ∀ c ∈ (toString d).toList, c.isDigit = true := by
    intro c hc
    rw [Nat.toString_eq_repr, Nat.toList_repr] at hc
    exact Nat.isDigit_of_mem_toDigits (by decide) (by decide) hc
  have hcolon : Char.isDigit ':' = false := by decide
  constructor
  · rw [List.takeWhile_append_of_pos hdigits, List.takeWhile_cons, hcolon]
    simp
  · rw [List.dropWhile_append_of_pos hdigits, List.dropWhile_cons, hcolon]
    simp

theorem matchDeviceKey_key (d : ℕ) (suffix : String) :
    matchDeviceKey ("device:" ++ toString d ++ ":" ++ suffix).toList =
      some ((toString d).toList, suffix.toList) := by
  have hlist : ("device:" ++ toString d ++ ":" ++ suffix).toList =
      'd' :: 'e' :: 'v' :: 'i' :: 'c' :: 'e' :: ':' :: ((toString d).toList ++ ':' :: suffix.toList) := by
    simp [String.toList_append]
  obtain ⟨c, cs, hcs⟩ : ∃ c cs, (toString d).toList = c :: cs := by
    cases h : (toString d).toList with
    | nil =>
        rw [Nat.toString_eq_repr] at h
        exact absurd (String.toList_inj.1 h) Nat.repr_ne_empty
    | cons c cs => exact ⟨c, cs, rfl⟩
  obtain ⟨htake, hdrop⟩ := takeWhile_digits d suffix.toList
  rw [hlist, matchDeviceKey, htake, hdrop, hcs]
  rfl

theorem find_kind {kind : IncidentKind} {suffix : String} (h : suffix ∈ incidentKeySuffixes kind) :
    incidentKinds.find? (fun k => suffix ∈ incidentKeySuffixes k) = some kind := by
  cases kind <;> simp [incidentKeySuffixes] at h <;> rcases h with rfl | rfl <;> decide

/-- **A stable key of an incident is parsed back to the incident.** -/
theorem parse_of_mem_keys {inc : IncidentRef} {key : String} (h : key ∈ incidentStableKeys inc) :
    parseIncidentStableKey (some key) = some inc := by
  obtain ⟨suffix, hs, rfl⟩ := List.mem_map.1 h
  unfold parseIncidentStableKey
  rw [Option.bind_some, matchDeviceKey_key]
  simp only [String.ofList_toList]
  rw [find_kind hs, Option.map_some, Nat.toString_eq_repr, Nat.toList_repr,
    Nat.ofDigitChars_toDigits (by decide) (by decide)]

end Obliance.Alerts
