import ProposalCheck.Config.Error

/-!
# Configurations

A `Config` says which rules are on, at which level, and how messages are written. `Config.update`
takes over what plain data asks for, entry by entry: what has been taken over when an entry turns
out to be wrong stays. `Config.linter` is the linter that a configuration describes.
-/

namespace ProposalCheck

open Data (Value)

/-- What becomes of the findings of a rule: errors, warnings, or the rule is off. -/
inductive Severity where
  | deny
  | warn
  | allow
deriving DecidableEq, Repr, Inhabited

namespace Severity

/-- The name of a severity, which is also the key for it in configurations. -/
def name : Severity → String
  | deny => "deny"
  | warn => "warn"
  | allow => "allow"

/-- All severities, in the order in which a configuration is read: of two for one rule the later one
wins. -/
def all : List Severity := [deny, warn, allow]

/-- The severity of a name. -/
def ofName? (name : String) : Option Severity :=
  all.find? (·.name == name)

/-- The level of the findings; `none` if there are none. -/
def level? : Severity → Option Level
  | deny => some .error
  | warn => some .warning
  | allow => none

end Severity

/-- The way in which messages are written. -/
inductive OutputFormat where
  | text
  | json
deriving DecidableEq, Repr, Inhabited

namespace OutputFormat

/-- The name of a format. -/
def name : OutputFormat → String
  | text => "text"
  | json => "json"

/-- All formats. -/
def all : List OutputFormat := [text, json]

/-- The format of a name. -/
def ofName? (name : String) : Option OutputFormat :=
  all.find? (·.name == name)

end OutputFormat

/-- A configuration. -/
structure Config where
  /-- The template of the file names of proposals. -/
  proposalFormat : String := "eip-\x7b\x7d"
  /-- The name of the format of messages; any name but that of JSON stands for text. -/
  outputFormat : String := OutputFormat.text.name
  /-- The template of the hint on a rule. -/
  helpUrl : String := "see https://ethereum.github.io/eipw/\x7b\x7d/"
  /-- Whether the shipped rules are on from the start. -/
  standardRules : Bool := true
  /-- The severities of rules by their slugs. -/
  overrides : List (String × Severity) := []
  /-- Modifiers that run after the standard ones. -/
  modifiers : List DefaultLevel := []
  /-- The file that the configuration was read from. -/
  path : Option Path := none
deriving Repr, Inhabited

namespace Config

/-! ## Overrides -/

/-- Sets the severity of a rule. -/
def override (c : Config) (slug : String) (s : Severity) : Config :=
  { c with overrides := c.overrides.filter (·.1 != slug) ++ [(slug, s)] }

/-- Sets the severity of several rules. -/
def overrideAll (c : Config) (s : Severity) (slugs : List String) : Config :=
  slugs.foldl (·.override · s) c

/-- The severity that is set for a rule. -/
def severity? (c : Config) (slug : String) : Option Severity :=
  (c.overrides.find? (·.1 == slug)).map (·.2)

/-! ## Updates -/

/-- A step that changes a configuration. What is done before it stops stays. -/
abbrev Update := ExceptT ConfigStop (StateM Config)

/-- The key for the template of file names. -/
def proposalFormatKey : String := "proposal_format"

/-- The key for modifiers. -/
def modifiersKey : String := "modifiers"

/-- The keys that a configuration may have. -/
def knownKeys : List String :=
  [proposalFormatKey, modifiersKey] ++ Severity.all.map Severity.name

/-- Whether a value is the text of a key that a configuration may have. -/
def isKnownKey : Value → Bool
  | .text s => knownKeys.contains s
  | _ => false

/-- Why two values have no common order, if they have none. -/
def clash? (a b : Value) : Option ConfigFault :=
  match a, b with
  | .timestamp s, .timestamp t =>
    match s.time, t.time with
    | some c, some d => if c.offset.isSome == d.offset.isSome then none else some .unorderedMoments
    | none, none => none
    | _, _ => some .unorderedDays
  | a, b =>
    if a.kindName == b.kindName || (a.amount?.isSome && b.amount?.isSome) then none
    else some (.unorderedKeys b.fullKindName a.fullKindName)

/-- The first clash of two values next to each other. -/
def firstClash? : List Value → Option ConfigFault
  | a :: b :: rest => (clash? a b).or (firstClash? (b :: rest))
  | _ => none

/-- The smallest of some values; of two that are equal, the first one. -/
def least (v : Value) : List Value → Value
  | [] => v
  | w :: ws =>
    match v.amount?, w.amount? with
    | some a, some b => least (if b.less a then w else v) ws
    | _, _ => least v ws

/-- Why a configuration with these keys, none of which is known, is refused. -/
def unknownKeys (first : Value) (rest : List Value) : ConfigStop :=
  match firstClash? (first :: rest) with
  | some f => .broken f
  | none =>
    match (first :: rest).mapM fun | .text s => some s | _ => none with
    | some keys => .refused (.unknownKeys (Text.sorted keys))
    | none => .broken (.keyNotText (least first rest).fullKindName)

/-- The items of a value that has items. -/
def items (v : Value) : Except ConfigFault (List Value) :=
  match v.opened with
  | .seq xs => .ok xs
  | .set xs => .ok xs
  | .record es => .ok (es.map (·.1))
  | .text s => .ok (s.toList.map fun c => .text (String.ofList [c]))
  | .bytes bs => .ok (bs.map fun b => .int b.toNat)
  | v => .error (.noItems v.fullKindName)

/-- The modifier that an item stands for. -/
def readModifier (v : Value) : Except ConfigStop DefaultLevel :=
  (DefaultLevel.ofValue v).mapError fun e =>
    match e with
    | .unusableKind _ => .broken (.modifier e)
    | .unwritableKind _ => .broken (.modifier e)
    | e => .refused (.modifier e)

/-- The entry of a key, unless it counts as absent. -/
def present? (data : Value) (key : String) : Option Value :=
  (data.get? key).filter fun v => !v.isVoid

/-- Takes over the template of file names. -/
def updateProposalFormat (data : Value) : Update Unit := do
  if let some v := data.get? proposalFormatKey then
    let text ← (v.plain.mapError fun e => ConfigStop.broken (.numeral e) : Except ConfigStop String)
    modify fun c => { c with proposalFormat := text }

/-- Adds modifiers one by one. -/
def addModifiers : List Value → Update Unit
  | [] => pure ()
  | v :: vs => do
    let m ← (readModifier v : Except ConfigStop DefaultLevel)
    modify fun c => { c with modifiers := c.modifiers ++ [m] }
    addModifiers vs

/-- Takes over the modifiers. -/
def updateModifiers (data : Value) : Update Unit := do
  if let some v := present? data modifiersKey then
    addModifiers (← (items v).mapError ConfigStop.broken)

/-- Sets a severity for rules one by one. -/
def addOverrides (s : Severity) : List Value → Update Unit
  | [] => pure ()
  | v :: vs => do
    let slug ← (v.plain.mapError fun e => ConfigStop.broken (.numeral e) : Except ConfigStop String)
    modify (·.override slug s)
    addOverrides s vs

/-- Takes over the rules of a severity. -/
def updateSeverity (data : Value) (s : Severity) : Update Unit := do
  match (present? data s.name).map Value.opened with
  | none => pure ()
  | some (.seq slugs) => addOverrides s slugs
  | some _ => throw (.refused (.notList s.name))

/-- Takes over the severities in order. -/
def updateSeverities (data : Value) : List Severity → Update Unit
  | [] => pure ()
  | s :: rest => do
    updateSeverity data s
    updateSeverities data rest

/-- Takes over what data asks for. -/
def takeOver (data : Value) : Update Unit := do
  let data := data.opened
  match data with
  | .record es =>
    match (es.map (·.1)).filter fun k => !isKnownKey k with
    | first :: rest => throw (unknownKeys first rest)
    | [] =>
      updateProposalFormat data
      updateModifiers data
      updateSeverities data Severity.all
  | _ => throw (.refused .notMapping)

/-- The configuration after data has been taken over, and what was wrong with the data. -/
def update (c : Config) (data : Value) : Config × Option ConfigStop :=
  match (takeOver data).run.run c with
  | (.ok (), c) => (c, none)
  | (.error e, c) => (c, some e)

/-! ## Use -/

/-- The hint on a rule. -/
def help (c : Config) (slug : String) : Except TemplateError String :=
  Template.fill c.helpUrl (.text slug)

/-- The overrides in the order of their slugs. -/
def orderedOverrides (c : Config) : List (String × Severity) :=
  c.overrides.mergeSort fun a b => Text.le a.1 b.1

/-- The slugs with a severity under which no rule is shipped. -/
def unknownRules (c : Config) : List String :=
  (c.orderedOverrides.map (·.1)).filter fun slug => !Shipped.standardSlugs.contains slug

/-- The shipped rule of a slug. -/
def shipped? (slug : String) : Option Rule :=
  (Shipped.standard.find? (·.1 == slug)).map (·.2.toRule)

/-- Gives a shipped rule a severity: the rule is taken out and, unless it is off, put in at the
level. -/
def apply (l : Linter) (slug : String) (s : Severity) : Except RegistryError Linter := do
  let l ← if (l.rule? slug).isSome then l.allow slug else pure l
  match s.level?, shipped? slug with
  | some level, some rule => l.register slug rule (some level)
  | _, _ => return l

/-- Gives shipped rules their severities in order. -/
def applyAll (l : Linter) : List (String × Severity) → Except RegistryError Linter
  | [] => .ok l
  | (slug, s) :: rest => do
    let l ← apply l slug s
    applyAll l rest

/-- The linter that a configuration describes. -/
def linter (c : Config) (reader : Reader) : Except ConfigStop Linter :=
  match c.unknownRules with
  | [] =>
    let start : Linter := {
      rules := if c.standardRules then Linter.standardRules else []
      modifiers := (DefaultLevel.standard ++ c.modifiers).map .defaultLevel
      reader, proposalFormat := c.proposalFormat }
    (applyAll start c.orderedOverrides).mapError fun e => .broken (.registry e)
  | slugs => .error (.refused (.unknownRules slugs))

end Config

end ProposalCheck
