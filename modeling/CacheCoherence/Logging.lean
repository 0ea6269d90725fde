import CacheCoherence.Environment
import CacheCoherence.Error
import CacheCoherence.Text.Regex.Syntax
import CacheCoherence.Text.Utf8

/-!
Log events, and the settings that decide which of them are shown and how. A
filter is a list of directives between commas; a directive is a level, or a
target and a span in brackets after it, with or without a level.
-/

namespace CacheCoherence.Logging

inductive Severity where
  | trace
  | debug
  | info
  | warn
  | error
  deriving DecidableEq

def Severity.text : Severity → String
  | .trace => "trace"
  | .debug => "debug"
  | .info => "info"
  | .warn => "warn"
  | .error => "error"

inductive Field where
  | number (n : Nat)
  | text (s : String)
  deriving DecidableEq

structure Event where
  severity : Severity
  message : String
  fields : List (String × Field)
  deriving DecidableEq

def number (name : String) (n : Nat) : String × Field := (name, .number n)

def text (name : String) (s : String) : String × Field := (name, .text s)

inductive Format where
  | text
  | json
  deriving DecidableEq

structure Settings where
  filter : String := "info"
  format : Format := .text
  serviceName : String := "coherence-server"

namespace Settings

def ofEnvironment (env : Environment) : Settings :=
  let defaults : Settings := {}
  { filter := (env.text? "COHERENCE_LOG").getD defaults.filter
    format :=
      match env.text? "COHERENCE_LOG_FORMAT" with
      | some s => if s.map Char.toLower = "json" then .json else .text
      | none => .text
    serviceName := (env.text? "COHERENCE_SERVICE_NAME").getD defaults.serviceName }

end Settings

inductive FilterError where
  | invalidDirective
  | invalidField (fault : Text.Regex.Fault)
  | unknownLevel
  deriving DecidableEq

def FilterError.message : FilterError → String
  | .invalidDirective => "invalid filter directive"
  | .invalidField fault => s!"invalid field filter: {fault.message}"
  | .unknownLevel =>
    "error parsing level filter: expected one of \"off\", \"error\", \"warn\", " ++
      "\"info\", \"debug\", \"trace\", or a number 0-5"

def levelNames : List String :=
  ["off", "error", "warn", "info", "debug", "trace"]

def isLevel (text : List Char) : Bool :=
  levelNames.contains ((String.ofList text).map Char.toLower) ||
    match Text.size? text with
    | some n => n ≤ 5
    | none => false

def isTargetStart (c : Char) : Bool :=
  Text.isAlphanumeric c || c == '-' || c == ':' || c == '_'

/-- Checks the value that a field is asked for, behind the first equals sign and before the second:
a truth value, a number, or an expression that it has to match. -/
def checkField (field : List Char) : Except FilterError Unit :=
  match field.splitOn '=' with
  | _ :: value :: _ =>
    if ["true", "false"].contains (String.ofList value) || Text.isNumber value then .ok ()
    else (Text.Regex.check value).mapError .invalidField
  | _ => .ok ()

/-- Checks the fields in the octets that have been cut out of a directive, which are no text if the
cut went through a character. -/
def checkFields (octets : List UInt8) : Except FilterError Unit :=
  match Text.Utf8.decode octets with
  | .ok field => checkField field.toList
  | .error _ => .error .invalidDirective

/-- Checks the octets behind an equals sign. With nothing there the level is that of everything. -/
def checkLevel (octets : List UInt8) : Except FilterError Unit :=
  match Text.Utf8.decode octets with
  | .ok level => if level.isEmpty || isLevel level.toList then .ok () else .error .unknownLevel
  | .error _ => .error .unknownLevel

inductive Place where
  | target
  | span
  /-- In the braces of a span, so many octets behind the opening one. -/
  | fields (octets : List UInt8) (count : Nat)
  | afterFields
  | afterSpan

/-- Checks what stands behind a directive's beginning: a span in brackets, with fields in braces or
without, and a level behind an equals sign. The parts are found in the text without the blanks
around the directive, but they are cut by their octets out of `raw`, where the blanks are still
there; so a directive with a level bears none. -/
def checkRest : Place → List Char → List UInt8 → Except FilterError Unit
  | .target, [], _ | .afterSpan, [], _ => .ok ()
  | .span, [], _ | .fields _ _, [], _ | .afterFields, [], _ => .error .invalidDirective
  | place, c :: r, raw =>
    let after := raw.drop c.utf8Size
    match place with
    | .target =>
      if c = '=' then checkLevel after else checkRest (if c = '[' then .span else .target) r after
    | .span =>
      checkRest (if c = ']' then .afterSpan else if c = '\x7b' then .fields after 0 else .span) r after
    | .fields octets count =>
      if c = '\x7d' then
        if count = 0 then .error .invalidDirective
        else
          match checkFields (octets.take count) with
          | .ok () => checkRest .afterFields r after
          | .error e => .error e
      else checkRest (.fields octets (count + c.utf8Size)) r after
    | .afterFields => if c = ']' then checkRest .afterSpan r after else .error .invalidDirective
    | .afterSpan => if c = '=' then checkLevel after else .error .invalidDirective

def checkDirective (d : List Char) : Except FilterError Unit :=
  match Text.strip d with
  | [] => .error .invalidDirective
  | c :: r =>
    if c = '[' || isTargetStart c then
      checkRest .target (c :: r) (d.flatMap String.utf8EncodeChar)
    else .error .invalidDirective

def checkFilter (filter : String) : Except FilterError Unit :=
  ((filter.toList.splitOn ',').filter (!·.isEmpty)).forM checkDirective

/-- Installs the logging of a process; a process that has logging already keeps it. -/
def install (installed : Bool) (s : Settings) : Except SettingError Unit := do
  match checkFilter s.filter with
  | .error e => throw (.invalidValue "COHERENCE_LOG" s.filter e.message)
  | .ok () =>
    if installed then
      throw (.invalidValue "tracing subscriber" s.serviceName
        "a global default trace dispatcher has already been set")

end CacheCoherence.Logging
