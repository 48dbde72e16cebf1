import Docpress.Failure
/-!
A highlighter that loads its backend when it is first needed. A backend that is not available is
reported once, and code stays plain from then on.
-/

namespace Docpress.Highlight

/-- The state of a highlighter: how often loading was tried, and what came of it. -/
structure LoadState where
  loads : Nat := 0
  loaded : Bool := false
  disabled : Bool := false
deriving DecidableEq, Repr

/-- The outcome of asking a highlighter for one block: its answer, which is empty where the code is
    to stay plain, the new state, what was reported, and whether the backend was asked. -/
structure Answer where
  result : Except Failure (Option Text)
  state : LoadState
  logs : List LogEntry
  asked : Bool

/-- The report that a block could not be highlighted. -/
def blockReport (language : Text) (e : Failure) : LogEntry :=
  let name := if language.isEmpty then "unlabelled".toList else language
  ⟨.error, "Could not highlight ".toList ++ name ++ " code block: ".toList ++ e.message⟩

/-- The report that a backend is not available. -/
def unavailableReport (e : Failure) : LogEntry :=
  ⟨.error, e.message ++ " Highlighting disabled.".toList⟩

/-- What the answer of a loaded backend comes to. -/
def LoadState.receive (s : LoadState) (language : Text) (reply : Except Failure (Option Text)) :
    Answer :=
  match reply with
  | .ok html => { result := .ok html, state := s, logs := [], asked := true }
  | .error e =>
    if e.kind.isHighlight then
      { result := .ok (some []), state := s, logs := [blockReport language e], asked := true }
    else { result := .error e, state := s, logs := [], asked := true }

/-- Ask for one block of code. `loader n` is the outcome of the attempt to load after `n` others,
    and `reply` is what the backend would say. -/
def LoadState.ask (s : LoadState) (loader : Nat → Except Failure Unit) (language : Text)
    (reply : Except Failure (Option Text)) : Answer :=
  if s.disabled then { result := .ok (some []), state := s, logs := [], asked := false }
  else if s.loaded then s.receive language reply
  else
    let tried := { s with loads := s.loads + 1 }
    match loader s.loads with
    | .ok () => { tried with loaded := true : LoadState }.receive language reply
    | .error e =>
      if e.kind == .unavailable then
        { result := .ok (some []), state := { tried with disabled := true },
          logs := [unavailableReport e], asked := false }
      else { result := .error e, state := tried, logs := [], asked := false }

end Docpress.Highlight
