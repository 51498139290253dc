/-!
The kinds of span that a theme can style, and their names in a configuration.
-/

namespace StructuredLog

inductive Style where
  | text
  | secondaryText
  | tertiaryText
  | invalid
  | null
  | name
  | string
  | number
  | boolean
  | scalar
  | levelVerbose
  | levelDebug
  | levelInformation
  | levelWarning
  | levelError
  | levelFatal
  deriving DecidableEq, Repr

namespace Style

def all : List Style :=
  [.text, .secondaryText, .tertiaryText, .invalid, .null, .name, .string, .number, .boolean,
   .scalar, .levelVerbose, .levelDebug, .levelInformation, .levelWarning, .levelError, .levelFatal]

def key : Style → String
  | text => "text"
  | secondaryText => "secondary_text"
  | tertiaryText => "tertiary_text"
  | invalid => "invalid"
  | null => "null"
  | name => "name"
  | string => "string"
  | number => "number"
  | boolean => "boolean"
  | scalar => "scalar"
  | levelVerbose => "level_verbose"
  | levelDebug => "level_debug"
  | levelInformation => "level_information"
  | levelWarning => "level_warning"
  | levelError => "level_error"
  | levelFatal => "level_fatal"

def ofKey? (k : String) : Option Style := all.find? (·.key == k)

@[simp] theorem ofKey?_key (s : Style) : ofKey? s.key = some s := by cases s <;> decide

end Style

end StructuredLog
