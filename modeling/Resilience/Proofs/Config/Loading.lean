import Resilience.Config.Text
import Resilience.Proofs.Results

/-!
# Saving and loading

A configuration is saved as a text and loaded from one by a writer and a reader of documents, a
`Toml.Codec`. Whichever they are, what is loaded was read from a document and is valid
(`Config.load_eq_ok_iff`). The writer and the reader of this library are one case
(`Config.save_standard`, `Config.load_standard`).
-/

namespace Resilience

/-! ### Writers and readers of documents -/

namespace Toml

/-- A writer of documents, which may refuse one, and a reader. -/
structure Codec where
  write : Table → Option String
  read : String → Option Table

/-- The writer that refuses nothing, and the reader. -/
def Codec.standard : Codec := ⟨fun d ↦ some (writeDocument d), readDocument⟩

end Toml

namespace Config

open Toml (Table)

/-! ### Checking what was read -/

/-- Checks a configuration that was read. -/
def checked (read : Except ReadFault (Config Binary64)) : Except ConfigError (Config Binary64) := do
  let config ← read.mapError .unreadable
  config.validate
  return config

theorem checked_eq_ok_iff {read : Except ReadFault (Config Binary64)} {c : Config Binary64} :
    checked read = .ok c ↔ read = .ok c ∧ c.validate = .ok () := by
  rw [checked, Except.bind_eq_ok_iff]
  constructor
  · rintro ⟨config, hread, hchecked⟩
    obtain ⟨_, hvalid, hreturn⟩ := Except.bind_eq_ok_iff.1 hchecked
    obtain rfl : config = c := Except.ok.inj hreturn
    exact ⟨Except.mapError_eq_ok_iff.1 hread, hvalid⟩
  · rintro ⟨rfl, hvalid⟩
    exact ⟨c, rfl, Except.bind_eq_ok_iff.2 ⟨(), hvalid, rfl⟩⟩

/-! ### Configurations -/

variable (codec : Toml.Codec)

/-- Saves a configuration, if the writer can. -/
def save (c : Config Binary64) : Option String := codec.write c.toDocument

/-- The document of a text, by any reader. -/
def documentBy (text : String) : Except ReadFault Table :=
  match codec.read text with
  | some document => .ok document
  | none => .error .noDocument

/-- Loads a configuration and checks it. -/
def load (text : String) : Except ConfigError (Config Binary64) :=
  checked ((documentBy codec text).bind ofDocument)

/-- To write a configuration is to save it with the writer that refuses nothing. -/
theorem save_standard (c : Config Binary64) : save .standard c = some c.toText :=
  rfl

/-- To read a configuration is to load it. -/
theorem load_standard (text : String) : load .standard text = ofText text :=
  rfl

variable {codec}

theorem load_eq_ok_iff {text : String} {c : Config Binary64} :
    load codec text = .ok c ↔
      (∃ d, codec.read text = some d ∧ ofDocument d = .ok c) ∧ c.validate = .ok () := by
  have hdocument : ∀ d, documentBy codec text = .ok d ↔ codec.read text = some d := by
    intro d
    rw [documentBy]
    cases codec.read text <;> simp
  rw [load, checked_eq_ok_iff]
  refine and_congr_left' ((Except.bind_eq_ok_iff (r := documentBy codec text)).trans ?_)
  simp only [hdocument]

end Config

end Resilience
