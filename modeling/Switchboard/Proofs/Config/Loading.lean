import Mathlib.Tactic.Common
import Switchboard.Config.Load

/-!
# What it takes to be loaded

A configuration is loaded from a file through four checks: the file has a text, the text is a
document, the values of the document fit, and the settings break no rule.  What is loaded has passed
all of them (`Config.parse_eq_ok_iff`), so it breaks no rule (`Config.violations_of_load`).
-/

namespace Switchboard.Config

variable {c c' : Config}

/-- What passes the check is what was checked, and breaks no rule. -/
lemma validated_eq_ok_iff : c.validated = .ok c' ↔ c' = c ∧ c.violations = [] := by
  unfold validated
  by_cases hvalid : c.violations = []
  · rw [hvalid, List.isEmpty_nil, if_pos rfl, Except.ok.injEq]
    constructor
    · rintro rfl
      exact ⟨rfl, rfl⟩
    · rintro ⟨rfl, -⟩
      rfl
  · rw [if_neg (by simpa using hvalid)]
    constructor
    · intro h
      cases h
    · intro h
      exact absurd h.2 hvalid

lemma ofEntries_eq_ok_iff {entries : Toml.Entries} :
    ofEntries entries = .ok c ↔ Decode.config.setAll {} entries = .ok c := by
  unfold ofEntries
  cases Decode.config.setAll {} entries with
  | ok base => simp
  | error e => simp

/-- A document whose values do not fit is refused for that. -/
lemma ofEntries_eq_error {entries : Toml.Entries} {e : MisfitError}
    (h : Decode.config.setAll {} entries = .error e) : ofEntries entries = .error (.misfit e) := by
  rw [ofEntries, h]

lemma parse_of_read? {text : String} {entries : Toml.Entries}
    (h : Toml.read? text = some entries) : parse text = ofEntries entries >>= validated := by
  simp only [parse, h]

/-- A text that describes a configuration is a document whose settings break no rule. -/
lemma parse_eq_ok_iff {text : String} :
    parse text = .ok c ↔ ∃ entries, Toml.read? text = some entries ∧
      Decode.config.setAll {} entries = .ok c ∧ c.violations = [] := by
  cases hread : Toml.read? text with
  | none => simp [parse, hread]
  | some entries =>
    simp only [parse_of_read? hread, Option.some.injEq, exists_eq_left', ← ofEntries_eq_ok_iff]
    cases ofEntries entries with
    | error e => simp [bind, Except.bind]
    | ok base =>
      simp only [bind, Except.bind, validated_eq_ok_iff, Except.ok.injEq]
      constructor
      · rintro ⟨rfl, hvalid⟩
        exact ⟨rfl, hvalid⟩
      · rintro ⟨rfl, hvalid⟩
        exact ⟨rfl, hvalid⟩

/-- A file that is loaded has the text of a configuration in it. -/
lemma exists_of_load {files : Files} {path : String} (h : load files path = .ok c) :
    ∃ text, files.readText path = .ok text ∧ parse text = .ok c := by
  unfold load at h
  split at h
  · cases h
  · exact ⟨_, ‹_›, h⟩

/-- What is loaded from a file breaks no rule. -/
lemma violations_of_load {files : Files} {path : String} (h : load files path = .ok c) :
    c.violations = [] := by
  obtain ⟨text, -, hparse⟩ := exists_of_load h
  obtain ⟨-, -, -, hvalid⟩ := parse_eq_ok_iff.mp hparse
  exact hvalid

/-- The default settings break no rule. -/
lemma violations_default : ({} : Config).violations = [] := by decide +kernel

end Switchboard.Config
