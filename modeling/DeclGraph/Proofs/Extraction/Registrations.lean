/-
**Registries after any registrations.**

Registering an extractor takes the one for its language away and puts the new one last. So a registry
holds of each language the extractor that was registered last, and its languages stand in the order of
these last registrations.

* `Registry.ofRegistrations`: the registry after some registrations;
* `Registry.Follows`: what a registry has to do with the registrations that led to it;
* **`Registry.Follows.register`**, **`Registry.follows_ofRegistrations`**: one registration keeps it,
  and so it holds after any of them;
* `Registry.Follows.forPath_eq_ok_iff`, `Registry.Follows.forPath_eq_error_iff`: the extractor for a
  path, and when there is none;
* **`Registry.last_registration_counts`**: languages, extensions and extractors of a registry.
-/

import DeclGraph.Extraction.Registry
import DeclGraph.Proofs.LastGiven
import Mathlib.Data.List.Nodup

namespace DeclGraph

variable {registrations : List Extractor} {registry : Registry} {extractor : Extractor}
  {language other : Language} {path : Path}

/-! ### Extensions -/

namespace Language

/-- An extension belongs to one language. -/
theorem disjoint_extensions (differ : language ≠ other) :
    List.Disjoint language.extensions other.extensions := by
  cases language <;> cases other <;> simp_all [extensions]

theorem nodup_extensions (language : Language) : language.extensions.Nodup := by
  cases language <;> exact List.nodup_singleton _

end Language

namespace Registry

theorem forLanguage?_isSome_iff :
    (registry.forLanguage? language).isSome ↔ language ∈ registry.languages := by
  simp [forLanguage?, languages]

/-! ### Registrations -/

/-- The registry after some registrations, one after the other. -/
def ofRegistrations (registrations : List Extractor) : Registry := registrations.foldl register empty

/-- **A registry follows from some registrations**: it holds of each language the extractor that was
registered last, and these stand in the order of their registrations. -/
structure Follows (registrations : List Extractor) (registry : Registry) : Prop where
  mem_iff : ∀ extractor, extractor ∈ registry.extractors ↔
    LastGiven Extractor.language registrations extractor
  ordered : registry.languages.Pairwise (LastBefore Extractor.language registrations)

namespace Follows

theorem empty : Follows [] empty where
  mem_iff extractor := by simp [Registry.empty, not_lastGiven_nil]
  ordered := .nil

/-- **One registration more is followed.** -/
theorem register (follows : Follows registrations registry) (extractor : Extractor) :
    Follows (registrations ++ [extractor]) (registry.register extractor) where
  mem_iff other := by
    rw [lastGiven_concat_iff, ← follows.mem_iff]
    simp [Registry.register, and_comm, or_comm]
  ordered := by
    have kept : (registry.register extractor).languages =
        registry.languages.filter (· != extractor.language) ++ [extractor.language] := by
      rw [languages, Registry.register, List.map_append, languages, List.filter_map]
      rfl
    rw [kept, List.pairwise_append]
    refine ⟨?_, List.pairwise_singleton _ _, fun first isFirst second isSecond => ?_⟩
    · refine (follows.ordered.filter _).imp_of_mem fun {first second} isFirst _ before => ?_
      have differs : first ≠ extractor.language := by simpa using (List.mem_filter.mp isFirst).2
      exact lastBefore_concat_iff.mpr ⟨differs.symm, Or.inr before⟩
    · have differs : first ≠ extractor.language := by simpa using (List.mem_filter.mp isFirst).2
      exact lastBefore_concat_iff.mpr ⟨differs.symm, Or.inl (List.mem_singleton.mp isSecond).symm⟩

end Follows

/-- **Every registry follows from its registrations.** -/
theorem follows_ofRegistrations (registrations : List Extractor) :
    Follows registrations (ofRegistrations registrations) := by
  induction registrations using List.reverseRecOn with
  | nil => exact .empty
  | append_singleton registrations extractor ih =>
    rw [ofRegistrations, List.foldl_append]
    exact ih.register extractor

/-! ### What a registry answers -/

namespace Follows

variable (follows : Follows registrations registry)

include follows

theorem mem_languages_iff : language ∈ registry.languages ↔
    ∃ extractor ∈ registrations, extractor.language = language := by
  rw [languages, List.mem_map]
  simp only [follows.mem_iff]
  constructor
  · rintro ⟨extractor, last, isFor⟩
    exact ⟨extractor, last.mem, isFor⟩
  · rintro ⟨extractor, member, rfl⟩
    exact exists_lastGiven member

theorem nodup_languages : registry.languages.Nodup := follows.ordered.imp fun before => before.ne

/-- Languages have no extension in common, so no extension is named twice. -/
theorem nodup_extensions : registry.extensions.Nodup :=
  List.nodup_flatMap.mpr ⟨fun language _ => language.nodup_extensions,
    follows.nodup_languages.imp Language.disjoint_extensions⟩

/-- **The extractor for a language is the one that was registered last.** -/
theorem forLanguage?_eq_some_iff : registry.forLanguage? language = some extractor ↔
    LastGiven Extractor.language registrations extractor ∧ extractor.language = language := by
  constructor
  · intro found
    have isFor := List.find?_some found
    exact ⟨(follows.mem_iff _).mp (List.mem_of_find?_eq_some found), eq_of_beq isFor⟩
  · rintro ⟨last, rfl⟩
    cases found : registry.forLanguage? extractor.language with
    | none =>
      have none := List.find?_eq_none.mp found extractor ((follows.mem_iff _).mpr last)
      exact absurd (BEq.refl _) none
    | some other =>
      have isFor := List.find?_some found
      have isLast := (follows.mem_iff _).mp (List.mem_of_find?_eq_some found)
      rw [isLast.unique last (eq_of_beq isFor)]

theorem forLanguage?_eq_none_iff : registry.forLanguage? language = none ↔
    ∀ extractor ∈ registrations, extractor.language ≠ language := by
  rw [← Option.not_isSome_iff_eq_none, forLanguage?_isSome_iff, follows.mem_languages_iff]
  simp only [not_exists, not_and]

theorem forPath_eq_ok_iff : registry.forPath path = .ok extractor ↔
    LastGiven Extractor.language registrations extractor ∧
      Language.ofPath? path = some extractor.language := by
  have found : registry.forPath path = .ok extractor ↔
      (Language.ofPath? path).bind registry.forLanguage? = some extractor := by
    unfold forPath
    cases (Language.ofPath? path).bind registry.forLanguage? <;> simp
  rw [found, Option.bind_eq_some_iff]
  simp only [follows.forLanguage?_eq_some_iff]
  constructor
  · rintro ⟨language, known, last, rfl⟩
    exact ⟨last, known⟩
  · rintro ⟨last, known⟩
    exact ⟨_, known, last, rfl⟩

/-- **A path has no extractor exactly if it has no known language or its language was never
registered.** -/
theorem forPath_eq_error_iff {error : Error} : registry.forPath path = .error error ↔
    error = .unsupportedInput path ∧ (Language.ofPath? path = none ∨
      ∃ language, Language.ofPath? path = some language ∧
        ∀ extractor ∈ registrations, extractor.language ≠ language) := by
  have missing : registry.forPath path = .error error ↔ error = .unsupportedInput path ∧
      (Language.ofPath? path).bind registry.forLanguage? = none := by
    unfold forPath
    cases (Language.ofPath? path).bind registry.forLanguage? <;> simp [eq_comm]
  rw [missing]
  cases Language.ofPath? path with
  | none => simp
  | some language => simp [follows.forLanguage?_eq_none_iff]

end Follows

/-- **What a registry holds after any registrations.** Each registered language is listed once, in the
order of the last registrations, and their extensions in the same order, none of them twice. A path is
given to the extractor that was registered last for its language, and refused exactly if it has no
known language or this was never registered. -/
theorem last_registration_counts (registrations : List Extractor) :
    (ofRegistrations registrations).languages.Nodup ∧
      (∀ language, language ∈ (ofRegistrations registrations).languages ↔
        ∃ extractor ∈ registrations, extractor.language = language) ∧
      (ofRegistrations registrations).languages.Pairwise
        (LastBefore Extractor.language registrations) ∧
      (ofRegistrations registrations).extensions =
        (ofRegistrations registrations).languages.flatMap Language.extensions ∧
      (ofRegistrations registrations).extensions.Nodup ∧
      ∀ path,
        (∀ extractor, (ofRegistrations registrations).forPath path = .ok extractor ↔
          LastGiven Extractor.language registrations extractor ∧
            Language.ofPath? path = some extractor.language) ∧
        ∀ error, (ofRegistrations registrations).forPath path = .error error ↔
          error = .unsupportedInput path ∧ (Language.ofPath? path = none ∨
            ∃ language, Language.ofPath? path = some language ∧
              ∀ extractor ∈ registrations, extractor.language ≠ language) := by
  have follows := follows_ofRegistrations registrations
  exact ⟨follows.nodup_languages, fun _ => follows.mem_languages_iff, follows.ordered, rfl,
    follows.nodup_extensions, fun _ => ⟨fun _ => follows.forPath_eq_ok_iff,
      fun _ => follows.forPath_eq_error_iff⟩⟩

/-- A language that is registered again comes last. -/
example (extract : FileSystem → Path → Except Error Graph) :
    (ofRegistrations [⟨.go, extract⟩, ⟨.python, extract⟩, ⟨.go, extract⟩]).languages =
      [.python, .go] := rfl

end Registry

end DeclGraph
