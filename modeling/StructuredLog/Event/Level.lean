import StructuredLog.Text.Case
import StructuredLog.Text.Digits

/-!
Severities, their short names in an output line, and the severities of the host's own logging.
-/

namespace StructuredLog

/-- From the least to the most severe. -/
inductive Level where
  | verbose
  | debug
  | information
  | warning
  | error
  | fatal
  deriving DecidableEq, Repr

namespace Level

def all : List Level := [.verbose, .debug, .information, .warning, .error, .fatal]

def name : Level → String
  | verbose => "Verbose"
  | debug => "Debug"
  | information => "Information"
  | warning => "Warning"
  | error => "Error"
  | fatal => "Fatal"

def ofName? (n : String) : Option Level := all.find? (·.name == n)

@[simp] theorem ofName?_name (l : Level) : ofName? l.name = some l := by cases l <;> decide

def rank : Level → Nat
  | verbose => 0
  | debug => 1
  | information => 2
  | warning => 3
  | error => 4
  | fatal => 5

/-- Short names of one, two, three and four characters; longer ones are cut from the name. -/
def shortNames : Level → List String
  | verbose => ["V", "Vb", "Vrb", "Verb"]
  | debug => ["D", "De", "Dbg", "Dbug"]
  | information => ["I", "In", "Inf", "Info"]
  | warning => ["W", "Wn", "Wrn", "Warn"]
  | error => ["E", "Er", "Err", "Eror"]
  | fatal => ["F", "Fa", "Ftl", "Fatl"]

/-- At most `width` characters for the level. -/
def shortName (l : Level) : Nat → String
  | 0 => ""
  | n + 1 => l.shortNames[n]?.getD (String.ofList (l.name.toList.take (n + 1)))

end Level

/-- The formats `u` and `w` change the case of a text; any other leaves it. -/
def applyCase (format : Option String) (s : String) : String :=
  match format with
  | some "u" => Text.upper s
  | some "w" => Text.lower s
  | _ => s

/-- The text of a level in an output line. A format of `t`, `u` or `w` and one or two digits gives
a short name in title, upper or lower case. -/
def Level.moniker (l : Level) (format : Option String) : String :=
  let full := applyCase format l.name
  match (format.getD "").toList with
  | [] => full
  | case :: width =>
    match Text.nat? width with
    | none => full
    | some n =>
      if 2 < width.length then full
      else if n = 0 then ""
      else if case = 't' then l.shortName n
      else if case = 'u' then Text.upper (l.shortName n)
      else if case = 'w' then Text.lower (l.shortName n)
      else full

/-- Severities of the host's logging. -/
inductive HostLevel where
  | trace
  | debug
  | info
  | warn
  | error
  deriving DecidableEq, Repr

def HostLevel.level : HostLevel → Level
  | trace => .verbose
  | debug => .debug
  | info => .information
  | warn => .warning
  | error => .error

def HostLevel.name : HostLevel → String
  | trace => "TRACE"
  | debug => "DEBUG"
  | info => "INFO"
  | warn => "WARN"
  | error => "ERROR"

end StructuredLog
