import Docpress.Text.Basic
/-!
What can go wrong in a highlighter, and what is reported without stopping.
-/

namespace Docpress

/-- The kinds of failure that a highlighter, or the work around it, may raise. -/
inductive FailureKind where
  /-- One block of code cannot be highlighted. -/
  | highlight
  /-- The highlighter cannot be loaded. This counts as a failure to highlight, too. -/
  | unavailable
  | value
  | runtime
  | system
  | missingModule
deriving DecidableEq, Repr

/-- The failure concerns highlighting alone, and a document can do without. -/
def FailureKind.isHighlight : FailureKind → Bool
  | .highlight => true
  | .unavailable => true
  | _ => false

/-- A failure with its message. -/
structure Failure where
  kind : FailureKind
  message : Text
deriving DecidableEq, Repr

/-- How grave a report is. -/
inductive Severity where
  | warning
  | error
deriving DecidableEq, Repr

/-- A report in the log. -/
structure LogEntry where
  severity : Severity
  message : Text
deriving DecidableEq, Repr

end Docpress
