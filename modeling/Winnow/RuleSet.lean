import Winnow.Rule
import Winnow.Text.LowerCase

/-!
The rules in force: built-in rules, configured patterns and plug-ins in this order, less those that are
disabled and those whose name is taken. Names of rules are compared in lower case.
-/
set_option autoImplicit false

namespace Winnow
open Winnow.Text

/-- A rule offered from outside under an entry name. Loading it fails, gives a rule, or gives something else. -/
structure Plugin where
  entry : String
  load : Except String (Option Rule)

/-- What a classifier adds to the built-in rules, and which rules it leaves out. -/
structure RuleSettings where
  extraPrefixes : List String := []
  extraPatterns : List CodeText := []
  disabled : List String := []
  deriving DecidableEq, Repr

inductive RuleSetError
  | badPattern (error : Pattern.Error)
  | loadFailed (entry reason : String)
  | notARule
  | unknownDisabled (names : List String)
  deriving DecidableEq, Repr

def RuleSetError.message : RuleSetError → String
  | .badPattern e => e.message
  | .loadFailed entry reason => s!"Failed to load rule entry point '{entry}': {reason}"
  | .notARule => "Rule entry point must be a GeneratedTypeRule subclass or factory"
  | .unknownDisabled names => "Unknown rules cannot be disabled: " ++ ", ".intercalate names

/-- The rule of a plug-in; one without a name takes the entry's. -/
def Plugin.rule (p : Plugin) : Except RuleSetError Rule :=
  match p.load with
  | .error reason => .error (.loadFailed p.entry reason)
  | .ok none => .error .notARule
  | .ok (some r) => .ok (if r.name.isEmpty then { r with name := p.entry } else r)

namespace RuleSet

def key (name : String) : String := lowerCase name

def patternRules (index : Nat) : List CodeText → Except RuleSetError (List Rule)
  | [] => .ok []
  | source :: rest =>
    match Pattern.read source with
    | .error e => .error (.badPattern e)
    | .ok p => do return .ofPattern s!"pattern-{index}" p :: (← patternRules (index + 1) rest)

def candidates (settings : RuleSettings) (plugins : List Plugin) : Except RuleSetError (List Rule) := do
  let patterns ← patternRules 1 settings.extraPatterns
  let added ← plugins.mapM Plugin.rule
  return Rule.builtins settings.extraPrefixes ++ patterns ++ added

/-- The rules whose key is neither disabled nor among `seen` nor that of an earlier rule. -/
def keep (disabled : List String) : (seen : List String) → List Rule → List Rule
  | _, [] => []
  | seen, r :: rest =>
    if disabled.contains (key r.name) || seen.contains (key r.name) then keep disabled seen rest
    else r :: keep disabled (key r.name :: seen) rest

def unknown (disabled : List String) (rules : List Rule) : List String :=
  ((disabled.filter fun k => !rules.any (key ·.name == k)).eraseDups).mergeSort (· ≤ ·)

def discover (settings : RuleSettings) (plugins : List Plugin) : Except RuleSetError (List Rule) := do
  let rules ← candidates settings plugins
  let disabled := settings.disabled.map key
  match unknown disabled rules with
  | [] => return keep disabled [] rules
  | names => throw (.unknownDisabled names)

end RuleSet

structure Classifier where
  rules : List Rule

namespace Classifier

def default : Classifier := ⟨Rule.builtins []⟩

def match? (c : Classifier) (typeName : String) : Option String :=
  (c.rules.find? (·.accepts typeName)).map (·.name)

def isGenerated (c : Classifier) (typeName : String) : Bool := (c.match? typeName).isSome

end Classifier

end Winnow
