import StructuredLog.Entry.Basic
import StructuredLog.Line.Writer
import StructuredLog.Options.Basic
import StructuredLog.Template.Cache

/-!
Formatters: entries are bound and written as lines. A formatter keeps the templates that it parsed.
-/

namespace StructuredLog

open Capture

structure Formatter (α : Type) where
  converter : Converter α
  theme : Theme
  provider : Provider
  line : Template
  cache : TemplateCache := {}

/-- Options that no formatter can be built from. -/
inductive OptionsError where
  | limit (e : LimitError)
  | style (e : InvalidStyle)
  deriving DecidableEq, Repr

def OptionsError.message : OptionsError → String
  | .limit e => e.message
  | .style e => e.message

inductive FormatError where
  | bind (e : BindError)
  /-- The receiver of the line did not take all of it. -/
  | refused
  deriving DecidableEq, Repr

def FormatError.message : FormatError → String
  | .bind e => e.message
  | .refused => "formatting failed"

namespace Formatter

def ofParts (o : Options) (c : Converter α) (t : Theme) (p : Provider) : Formatter α :=
  ⟨c, t, p, .parse o.outputTemplate, {}⟩

/-- Limits are checked before styles. -/
def ofOptions (o : Options) : Except OptionsError (Formatter α) := do
  o.limits.check.mapError .limit
  let theme ← o.buildTheme.mapError .style
  return ofParts o o.converter theme .none

/-- The event of an entry. -/
def event (f : Formatter α) (h : Host α) (e : Entry α) (now : ZonedDateTime) :
    Formatter α × List Diagnostic × Except BindError Event :=
  let (cache, t, ds) := f.cache.parse e.template
  let (log, result) := e.bind f.converter h t.template now
  ({ f with cache }, ds ++ log, result)

/-- Writes an event that is bound already. -/
def write (f : Formatter α) (e : Event) (k : Sink) : Sink × Except FormatError Unit :=
  let (k, taken) := f.line.lineWriter e f.provider f.theme k
  (k, if taken then .ok () else .error .refused)

/-- Binds an entry and writes it; nothing is written if it cannot be bound. -/
def format (f : Formatter α) (h : Host α) (e : Entry α) (now : ZonedDateTime) (k : Sink) :
    Formatter α × List Diagnostic × Sink × Except FormatError Unit :=
  let (f, log, bound) := f.event h e now
  match bound with
  | .ok event => (f, log, f.write event k)
  | .error e => (f, log, k, .error (.bind e))

end Formatter

end StructuredLog
