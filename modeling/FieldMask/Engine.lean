import FieldMask.Failure
import FieldMask.Json.Parser
import FieldMask.Json.Printer
import FieldMask.Log
import FieldMask.Walk

/-!
# `FieldMask.Engine`: the masking engine

An `Engine` holds its settings and masks values, JSON trees and JSON documents by them. The
settings change only by `register` and `reconfigure`.

`Engine.maskDocument` reads a document, walks it and writes it back without white space. A blank
document, and any document while masking is switched off, is passed on as it is. A document that
cannot be masked is passed on as well, with a log line, unless the engine fails closed: then the
result is the failure. A `DocumentRun` also holds the counts, which stay as the walk left them even
when the document itself is passed on unmasked.
-/

set_option autoImplicit false

namespace FieldMask

/-- A masking engine. -/
structure Engine where
  settings : Settings

/-- What comes of a document. -/
structure DocumentRun where
  result : Except Failure Text
  tally : Tally
  log : List LogLine
  deriving DecidableEq

namespace Engine

/-- An engine with the given options. -/
def create (o : Options) : Engine := ⟨Settings.create o⟩

/-- The engine with the given options in place of its settings. -/
def reconfigure (_ : Engine) (o : Options) : Engine := create o

/-- The engine with one more strategy. -/
def register (e : Engine) (strategy : Strategy) : Engine := ⟨e.settings.register strategy⟩

/-- The strategy of a field, in scope or not. -/
def findStrategy? (e : Engine) (field : Text) : Option Strategy := e.settings.registry.find? field

/-- The values of a field may be masked: masking is switched on and the field is in scope. -/
def isEnabledFor (e : Engine) (field : Text) : Bool :=
  e.settings.enabled && e.settings.fields.allows field

/-- Masks the value of a field as in a document. -/
def maskValue (e : Engine) (field value : Text) : Except Refusal Text :=
  if e.isEnabledFor field then
    match e.findStrategy? field with
    | some strategy => strategy.mask value
    | none => .ok value
  else .ok value

/-- Masks a value by the strategy of a field, in scope or not, switched on or not. -/
def maskAs (e : Engine) (field value : Text) : Except Refusal Text :=
  match e.findStrategy? field with
  | some strategy => strategy.mask value
  | none => .ok value

/-- Masks a name. -/
def maskName (e : Engine) (value : Text) : Except Refusal Text := e.maskAs "name" value

/-- Masks a phone number. -/
def maskPhone (e : Engine) (value : Text) : Except Refusal Text := e.maskAs "phone" value

/-- Masks a mail address. -/
def maskEmail (e : Engine) (value : Text) : Except Refusal Text := e.maskAs "email" value

/-- Masks the members of an object, also while masking is switched off. -/
def maskObject (e : Engine) (members : Record Json) (tally : Tally) : Walked (Record Json) :=
  Json.walkMembers e.settings members tally

/-- What the log says about a document that is passed on although it could not be masked. -/
def passedOn (f : Failure) : LogLine := .error "Returning document unmasked" (some f.message)

/-- What comes of a document that cannot be masked. -/
def failed (e : Engine) (text : Text) (f : Failure) (tally : Tally) : DocumentRun :=
  if e.settings.failClosed then ⟨.error f, tally, []⟩
  else ⟨.ok text, tally, if f.isLogged then [passedOn f] else []⟩

/-- Masks a JSON document. -/
def maskDocument (e : Engine) (text : Text) (tally : Tally) : DocumentRun :=
  if !e.settings.enabled || text.isBlank then ⟨.ok text, tally, []⟩
  else
    match Json.parse .same text with
    | .error mistake => e.failed text (.invalidJson mistake) tally
    | .ok (.object members) =>
      let walked := e.maskObject members tally
      match walked.refusal with
      | some r => e.failed text (.internal r) walked.tally
      | none => ⟨.ok (Json.object walked.value).print, walked.tally, []⟩
    | .ok root => e.failed text (.unsupportedRoot root.kind) tally

end Engine

end FieldMask
