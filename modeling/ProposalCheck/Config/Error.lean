import ProposalCheck.Files.Basic
import ProposalCheck.Lint.Linter
import ProposalCheck.Yaml.Error

/-!
# What can be wrong with a configuration

A `ConfigError` says what is wrong with a configuration in its own terms. A `ConfigFault` is trouble
with the data it is made of, which nobody has put into those terms.
-/

namespace ProposalCheck

/-- What is wrong with a configuration. -/
inductive ConfigError where
  | unreadable (p : Path) (e : FileError)
  | malformed (p : Path)
  | notMapping
  | unknownKeys (keys : List String)
  | modifier (e : ModifierError)
  /-- The entry for a severity is no list. -/
  | notList (key : String)
  | unknownFormat (given : String)
  | unknownRules (slugs : List String)
deriving Repr, Inhabited

namespace ConfigError

/-- The wording of the error. -/
def message : ConfigError → String
  | unreadable p e => "cannot read config file " ++ p.text ++ ": " ++ e.message p
  | malformed p => "invalid YAML in " ++ p.text ++ ": " ++ Yaml.Error.malformed.message
  | notMapping => "config must be a mapping"
  | unknownKeys keys => "unknown config keys: " ++ ", ".intercalate keys
  | modifier e => e.message
  | notList key => "\x60" ++ key ++ "\x60 must be a list of lint slugs"
  | unknownFormat given =>
    "PROPOSAL_LINT_FORMAT must be text or json, got " ++ Text.quoted given
  | unknownRules slugs => "unknown lint(s): " ++ ", ".intercalate slugs

end ConfigError

/-- Trouble with the data of a configuration. -/
inductive ConfigFault where
  /-- The path of the file is none that files can have. -/
  | impossiblePath
  | home (e : HomeError)
  | decoding (e : Text.DecodingError)
  | data (e : Yaml.Error)
  /-- Keys that are unknown are of two kinds that have no common order. -/
  | unorderedKeys (left right : String)
  /-- Keys that are unknown are a day and a moment of a day. -/
  | unorderedDays
  /-- Keys that are unknown are moments with and without an offset from universal time. -/
  | unorderedMoments
  /-- A key that is unknown is no text. -/
  | keyNotText (kindName : String)
  | numeral (e : Text.NumeralError)
  /-- The entry for modifiers has no items. -/
  | noItems (kindName : String)
  | modifier (e : ModifierError)
  | registry (e : RegistryError)
deriving Repr, Inhabited

namespace ConfigFault

/-- The wording of the error. -/
def message : ConfigFault → String
  | impossiblePath => ReadError.impossiblePath.message
  | home e => e.message
  | decoding e => e.message
  | data e => e.message
  | unorderedKeys left right =>
    "'<' not supported between instances of '" ++ left ++ "' and '" ++ right ++ "'"
  | unorderedDays => "can't compare datetime.datetime to datetime.date"
  | unorderedMoments => "can't compare offset-naive and offset-aware datetimes"
  | keyNotText kindName => "sequence item 0: expected str instance, " ++ kindName ++ " found"
  | numeral e => e.message
  | noItems kindName => "'" ++ kindName ++ "' object is not iterable"
  | modifier e => e.message
  | registry e => e.message

end ConfigFault

/-- Why there is no configuration, or no linter for it. -/
inductive ConfigStop where
  | refused (e : ConfigError)
  | broken (f : ConfigFault)
deriving Repr, Inhabited

namespace ConfigStop

/-- The wording of the error. -/
def message : ConfigStop → String
  | refused e => e.message
  | broken f => f.message

end ConfigStop

end ProposalCheck
