import CatalogTypes.Service.Http
import Mathlib.Data.List.TakeWhile

/-!
# Which paths lead to a route

A target is cut at its slashes, and the parts are compared with those of the routes.
`Route.HasPath` says the same of the path as one text.
-/

namespace CatalogTypes.Service

/-- What stands in front of a query or a fragment. -/
def pathText (target : String) : String :=
  String.ofList (target.toList.takeWhile fun c => c != '?' && c != '#')

theorem pathText_eq_self {target : String} (h : ∀ c ∈ target.toList, c ≠ '?' ∧ c ≠ '#') :
    pathText target = target := by
  rw [pathText, List.takeWhile_eq_self_iff.mpr (by simpa using h), String.ofList_toList]

/-- The path is its parts with slashes between them. -/
theorem intercalate_path (target : String) : "/".intercalate (path target) = pathText target := by
  have pieces : (path target).map (·.toList) = (pathText target).toList.splitOn '/' := by
    simp [path, pathText]
  rw [← String.toList_inj, String.toList_intercalate, pieces]
  exact List.intercalate_splitOn '/'

theorem slash_not_mem_of_mem_path {target part : String} (h : part ∈ path target) :
    '/' ∉ part.toList := by
  obtain ⟨piece, hp, rfl⟩ := List.mem_map.mp h
  rw [String.toList_ofList]
  exact Text.separator_not_mem_of_mem_splitOn hp

theorem path_eq_of_intercalate {target : String} {parts : List String} (nonempty : parts ≠ [])
    (plain : ∀ part ∈ parts, '/' ∉ part.toList) (h : pathText target = "/".intercalate parts) :
    path target = parts := by
  have pieces : path target = ((pathText target).toList.splitOn '/').map String.ofList := by
    simp [path, pathText]
  have plain' : ∀ piece ∈ parts.map (·.toList), '/' ∉ piece := by simpa using plain
  have split : (['/'].intercalate (parts.map (·.toList))).splitOn '/' = parts.map (·.toList) :=
    List.splitOn_intercalate '/' plain' (by simpa using nonempty)
  rw [pieces, h, String.toList_intercalate]
  show ((['/'].intercalate _).splitOn '/').map _ = _
  rw [split, List.map_map]
  simp [Function.comp_def]

namespace Route

/-- The path of a route. The part that stands for a language has no slash, and only in front of
another part may it be empty. -/
inductive HasPath : Route → String → Prop
  | health : HasPath .health "/health"
  | generators : HasPath .generators "/generators"
  | generate {part : String} (plain : '/' ∉ part.toList) (nonempty : part ≠ "") :
      HasPath (.generate part) ("/generators/" ++ part)
  | diagnostics {part : String} (plain : '/' ∉ part.toList) :
      HasPath (.diagnostics part) ("/generators/" ++ part ++ "/diagnostics")

def parts : Route → List String
  | health => ["", "health"]
  | generators => ["", "generators"]
  | generate part => ["", "generators", part]
  | diagnostics part => ["", "generators", part, "diagnostics"]

theorem ofPath?_eq_some_iff_parts {parts : List String} {route : Route} :
    ofPath? parts = some route ↔ parts = route.parts ∧ route ≠ .generate "" := by
  constructor
  · intro h
    unfold ofPath? at h
    split at h
    case h_3 =>
      split at h
      · cases h
      · next nonempty =>
        cases h
        exact ⟨rfl, by simpa using nonempty⟩
    case h_5 => cases h
    all_goals
      cases h
      exact ⟨rfl, by simp⟩
  · rintro ⟨rfl, nonempty⟩
    cases route
    case generate part => simpa [ofPath?, Route.parts] using nonempty
    all_goals rfl

theorem hasPath_iff {route : Route} {p : String} :
    route.HasPath p ↔ p = "/".intercalate route.parts ∧
      (∀ part ∈ route.parts, '/' ∉ part.toList) ∧ route ≠ .generate "" := by
  have generate : ∀ part, "/".intercalate (Route.generate part).parts = "/generators/" ++ part :=
    fun part => by simp [← String.toList_inj, parts]
  have diagnostics : ∀ part, "/".intercalate (Route.diagnostics part).parts =
      "/generators/" ++ part ++ "/diagnostics" := fun part => by simp [← String.toList_inj, parts]
  constructor
  · rintro (_ | _ | ⟨plain, nonempty⟩ | plain)
    · exact ⟨rfl, by simp [parts], by simp⟩
    · exact ⟨rfl, by simp [parts], by simp⟩
    · exact ⟨(generate _).symm, by simp [parts, plain], by simpa using nonempty⟩
    · exact ⟨(diagnostics _).symm, by simp [parts, plain], by simp⟩
  · rintro ⟨rfl, plain, nonempty⟩
    cases route with
    | health => exact .health
    | generators => exact .generators
    | generate part =>
      rw [generate]
      exact .generate (plain part (by simp [parts])) (by simpa using nonempty)
    | diagnostics part =>
      rw [diagnostics]
      exact .diagnostics (plain part (by simp [parts]))

theorem ofPath?_eq_some_iff {target : String} {route : Route} :
    ofPath? (path target) = some route ↔ route.HasPath (pathText target) := by
  rw [ofPath?_eq_some_iff_parts, hasPath_iff]
  constructor
  · rintro ⟨same, nonempty⟩
    refine ⟨by rw [← same, intercalate_path], ?_, nonempty⟩
    rw [← same]
    exact fun _ => slash_not_mem_of_mem_path
  · rintro ⟨text, plain, nonempty⟩
    refine ⟨path_eq_of_intercalate ?_ plain text, nonempty⟩
    cases route
    all_goals simp [parts]

end Route

end CatalogTypes.Service
