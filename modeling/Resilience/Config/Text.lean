import Resilience.Config.Document
import Resilience.Toml.Reader
import Resilience.Toml.Writer

/-!
# Configurations as text

Reading a configuration takes three steps, each with faults of its own: the text has to be a
document, the document has to have the shape of a configuration, and the entries have to be valid.
Writing one has no conditions, so a configuration assembled in code that is not valid writes as a
text that does not read.
-/

namespace Resilience.Config

/-- The document of a text. -/
def documentOf (text : String) : Except ReadFault Toml.Table :=
  match Toml.readDocument text with
  | some document => .ok document
  | none => .error .noDocument

/-- Reads and checks a configuration. -/
def ofText (text : String) : Except ConfigError (Config Binary64) := do
  let config ← ((documentOf text).bind ofDocument).mapError .unreadable
  config.validate
  return config

/-- Writes a configuration. -/
def toText (c : Config Binary64) : String := Toml.writeDocument c.toDocument

/-- Reads and checks the configuration in the contents of a file. -/
def ofBytes (path : String) (contents : ByteArray) : Except ConfigError (Config Binary64) :=
  match String.fromUTF8? contents with
  | none => .error (.file path .notText)
  | some text => ofText text

/-- What becomes of a configuration that is written and read again. -/
def reread (c : Config Binary64) : Except ConfigError (Config Binary64) := ofText c.toText

end Resilience.Config
