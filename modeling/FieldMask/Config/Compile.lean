import FieldMask.Config.Comments
import FieldMask.Config.Schema
import FieldMask.Folder
import FieldMask.Json.Parser
import FieldMask.Settings

/-!
# `FieldMask.Config.Compile`: from a configuration to options

`ConfigFile.compile` turns a configuration into options: the default strategies, then those asked
for by name, then one for each rule, in order. `Config.parse` reads a text with comments, checks
its shape and compiles it, and `Config.load` does so with a file. `ConfigError` is what can be
wrong on the way.
-/

set_option autoImplicit false

namespace FieldMask

/-- What is wrong with a configuration. -/
inductive ConfigError where
  /-- The file cannot be read. -/
  | unreadable (e : FileError)
  /-- The text from a source is no JSON. -/
  | invalidJson (source : Text) (mistake : Json.ParseError)
  /-- The text from a source has another shape. -/
  | invalidShape (source : Text) (issue : Config.Issue)
  /-- The pattern of a rule is none. -/
  | invalidPattern (rule : Text) (mistake : Pattern.CompileError)
  /-- The count of a rule is none. -/
  | invalidKeep (e : Strategy.InvalidKeep)
  deriving DecidableEq, Repr

/-- The wording of what is wrong. -/
def ConfigError.message : ConfigError → Text
  | .unreadable e => e.message
  | .invalidJson source mistake => source ++ (": invalid JSON: " : Text) ++ mistake.message
  | .invalidShape source issue => source ++ (": " : Text) ++ issue.message
  | .invalidPattern rule mistake =>
    ("Invalid pattern for rule \"" : Text) ++ rule ++ ("\": " : Text) ++ mistake.message
  | .invalidKeep e => e.message

namespace Config

/-- The letters of a rule's pattern. -/
def ruleFlags : Text := "i"

/-- The mark at the start of a pattern that case does not matter, which goes without saying. -/
def ignoreCaseMark : Text := "(?i)"

/-- The pattern of a rule without the mark at its start. -/
def Rule.source (r : Rule) : Text :=
  if ignoreCaseMark.isPrefixOf r.pattern then r.pattern.drop ignoreCaseMark.length else r.pattern

/-- The strategy of a rule. -/
def Rule.compile (r : Rule) : Except ConfigError Strategy :=
  match FieldTest.ofSource r.source ruleFlags with
  | .error mistake => .error (.invalidPattern r.id mistake)
  | .ok test => (Strategy.trailingDigits r.id test r.keep).mapError .invalidKeep

/-- The strategy that is asked for. -/
def OptionalStrategy.strategy : OptionalStrategy → Strategy
  | .account => Strategy.forAccounts

/-- The strategies of rules, up to the first rule that has none. -/
def compileRules : List Rule → Except ConfigError (List Strategy)
  | [] => .ok []
  | r :: rest => do
    let s ← r.compile
    let ss ← compileRules rest
    return s :: ss

end Config

/-- The options that a configuration gives. -/
def ConfigFile.compile (c : ConfigFile) : Except ConfigError Options := do
  let rules ← Config.compileRules (c.rules.getD [])
  return {
    enabled := c.enabled
    fields := c.fields.map fun
      | .text csv => .list (Allowlist.parse csv)
      | .list names => .list names
    failClosed := c.failClosed
    strategies := some (Strategy.defaults ++
      (c.strategies.getD []).map Config.OptionalStrategy.strategy ++ rules) }

namespace Config

/-- The options that a text from a source gives. -/
def parse (source text : Text) : Except ConfigError Options := do
  let json ← (Json.parse .last (strip text)).mapError (.invalidJson source)
  let file ← (ConfigFile.ofJson json).mapError (.invalidShape source)
  file.compile

/-- The source of a text that comes from nowhere in particular. -/
def defaultSource : Text := "config"

/-- The options that a file gives. -/
def load (read : FileReader) (path : Text) : Except ConfigError Options := do
  let bytes ← (read path).mapError .unreadable
  parse path (Utf8.decode bytes)

/-- The options of the file that is named, none if there is no name or an empty one. -/
def loadNamed (read : FileReader) : Option Text → Except ConfigError Options
  | none | some [] => .ok {}
  | some path => load read path

end Config

end FieldMask
