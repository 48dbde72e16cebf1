import Docpress.Markdown.Span
import Docpress.Text.Blank
import Docpress.Text.Punctuation
/-!
Delimiter runs: which marks open emphasis, which close it, and how they pair up.
-/

namespace Docpress.Markdown

/-- One mark of a delimiter run, or two for striking out. -/
structure Delimiter where
  mark : Char
  /-- The length of the run, or zero for striking out. -/
  length : Nat
  /-- The place of the mark's piece among the pieces of its scope. -/
  token : Nat
  opens : Bool
  closes : Bool
  /-- The delimiter that closes this one, once it is known. -/
  stop : Option Nat := none
deriving DecidableEq, Repr

/-- Whether a run opens and closes, from the characters before and after it; `inWord` if it may do
    so in the middle of a word. -/
def flanks (inWord : Bool) (before after : Char) : Bool × Bool :=
  let left := !(isSpaceSeparator after ||
    (isPunctuationOrSymbol after && !(isSpaceSeparator before || isPunctuationOrSymbol before)))
  let right := !(isSpaceSeparator before ||
    (isPunctuationOrSymbol before && !(isSpaceSeparator after || isPunctuationOrSymbol after)))
  (left && (inWord || !right || isPunctuationOrSymbol before),
    right && (inWord || !left || isPunctuationOrSymbol after))

/-- By the lengths of their runs two marks may not pair, if either could go both ways. -/
def clash (opener closer : Delimiter) : Bool :=
  (opener.closes || closer.opens) && (opener.length + closer.length) % 3 == 0 &&
    (opener.length % 3 != 0 || closer.length % 3 != 0)

/-- The state of the pairing. Places are counted from one, so that zero lies before all. -/
structure Pairing where
  delimiters : Array Delimiter
  /-- How many places to pass over, besides one, when going down from each delimiter. -/
  jumps : Array Nat := #[]
  /-- For each mark and kind of closer, the place at or below which no opener is left. -/
  bottoms : List ((Char × Nat) × Nat) := []
  /-- The first delimiter of the current run. -/
  header : Nat := 0
  /-- The piece of the run's last delimiter, unless the run is broken. -/
  last : Option Nat := none

/-- Go down from place `i` to the nearest opener for a closer, staying above `bottom`. -/
def Pairing.findOpener (p : Pairing) (closer : Delimiter) (bottom : Nat) :
    (fuel i : Nat) → Option Nat
  | 0, _ => none
  | fuel + 1, i =>
    if i ≤ bottom then none
    else match p.delimiters[i - 1]? with
      | none => none
      | some opener =>
        if opener.mark == closer.mark && opener.opens && opener.stop.isNone &&
            !clash opener closer then some (i - 1)
        else p.findOpener closer bottom fuel (i - (p.jumps.getD (i - 1) 0 + 1))

/-- Record that two delimiters pair. -/
def Pairing.pair (p : Pairing) (opener closer : Nat) : Pairing :=
  let jump := match opener with
    | 0 => 0
    | i + 1 =>
      if (p.delimiters[i]?.map (·.opens)).getD true then 0 else p.jumps.getD i 0 + 1
  { p with
    delimiters := (p.delimiters.modify closer fun d => { d with opens := false }).modify opener
      fun d => { d with stop := some closer, closes := false }
    jumps := (p.jumps.setIfInBounds closer (closer - opener + jump)).setIfInBounds opener jump
    last := none }

/-- Look for the opener of the delimiter at place `k`, counted from zero. -/
def Pairing.step (p : Pairing) (k : Nat) (closer : Delimiter) : Pairing :=
  let sameRun := (p.delimiters[p.header]?.map (·.mark)) == some closer.mark &&
    p.last.map (· + 1) == some closer.token
  let header := if sameRun then p.header else k
  let p := { p with jumps := p.jumps.push 0, header, last := some closer.token }
  if !closer.closes then p
  else
    let key := (closer.mark, (if closer.opens then 3 else 0) + closer.length % 3)
    let start := header - p.jumps.getD header 0
    match p.findOpener closer ((p.bottoms.lookup key).getD 0) start start with
    | some opener => p.pair opener k
    | none => { p with bottoms := (key, start) :: p.bottoms }

/-- Pair the delimiters from place `k` on. -/
def Pairing.run : (fuel k : Nat) → Pairing → Pairing
  | 0, _, p => p
  | fuel + 1, k, p =>
    match p.delimiters[k]? with
    | some closer => Pairing.run fuel (k + 1) (p.step k closer)
    | none => p

/-- The delimiters of a scope with their closers. -/
def pairDelimiters (delimiters : Array Delimiter) : Array Delimiter :=
  (Pairing.run delimiters.size 0 { delimiters }).delimiters

/-- Put the pieces of striking out in place, and note the odd marks that stand before a closing
    one. -/
def placeStrike (delimiters : Array Delimiter) (pieces : Array Span × List Nat)
    (opener : Delimiter) : Array Span × List Nat :=
  match opener.stop.bind (delimiters[·]?) with
  | some closer =>
    if opener.mark == '~' then
      let spans := (pieces.1.setIfInBounds opener.token (.openEmphasis .strike)).setIfInBounds
        closer.token (.closeEmphasis .strike)
      if 0 < closer.token && spans[closer.token - 1]? == some (.text ['~']) then
        (spans, (closer.token - 1) :: pieces.2)
      else (spans, pieces.2)
    else pieces
  | none => pieces

/-- The last of the closing pieces of striking out that stand from place `i` on without a gap. -/
def lastStrikeClose (spans : Array Span) : (fuel i : Nat) → Nat
  | 0, i => i - 1
  | fuel + 1, i =>
    if spans[i]? == some (.closeEmphasis .strike) then lastStrikeClose spans fuel (i + 1) else i - 1

/-- Move the odd mark at place `i` behind the closing pieces that follow it. -/
def moveOddMark (spans : Array Span) (i : Nat) : Array Span :=
  let j := lastStrikeClose spans spans.size (i + 1)
  match spans[i]?, spans[j]? with
  | some a, some b => (spans.setIfInBounds j a).setIfInBounds i b
  | _, _ => spans

/-- Place the emphasis that the delimiters below `k` open, from the last on. Two marks next to
    each other whose closers are next to each other make one strong emphasis. -/
def placeEmphasis (delimiters : Array Delimiter) : (k : Nat) → Array Span → Array Span
  | 0, spans => spans
  | k + 1, spans =>
    match delimiters[k]? with
    | some opener =>
      match opener.stop with
      | some stop =>
        match delimiters[stop]? with
        | some closer =>
          if opener.mark == '_' || opener.mark == '*' then
            let outer := if k = 0 then none else delimiters[k - 1]?
            let next := delimiters[stop + 1]?
            let strong := match outer, next with
              | some o, some n => o.stop == some (stop + 1) && o.mark == opener.mark &&
                  o.token + 1 == opener.token && n.token == closer.token + 1
              | _, _ => false
            if strong then
              let spans := (spans.setIfInBounds opener.token (.openEmphasis .strong)).setIfInBounds
                closer.token (.closeEmphasis .strong)
              let spans := (spans.setIfInBounds (opener.token - 1) (.text [])).setIfInBounds
                (closer.token + 1) (.text [])
              placeEmphasis (delimiters.modify (k - 1) fun d => { d with stop := none }) k spans
            else
              placeEmphasis delimiters k ((spans.setIfInBounds opener.token
                (.openEmphasis .plain)).setIfInBounds closer.token (.closeEmphasis .plain))
          else placeEmphasis delimiters k spans
        | none => placeEmphasis delimiters k spans
      | none => placeEmphasis delimiters k spans
    | none => placeEmphasis delimiters k spans

/-- The pieces of a scope with its emphasis in place. -/
def resolveEmphasis (spans : List Span) (delimiters : List Delimiter) : List Span :=
  if delimiters.isEmpty then spans
  else
    let delimiters := pairDelimiters delimiters.toArray
    let (placed, odd) := delimiters.foldl (placeStrike delimiters) (spans.toArray, [])
    (placeEmphasis delimiters delimiters.size (odd.foldl moveOddMark placed)).toList

end Docpress.Markdown
