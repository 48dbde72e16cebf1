import Docpress.Console.Colour
import Docpress.Text.Blank
import Docpress.Text.Case
/-!
Styles: attributes, colours and a link, given as words in any order. The normal form of a style has
them in a fixed order, so that two ways to write one style can be told to be the same.
-/

namespace Docpress.Console

/-- An attribute of text. -/
inductive Attribute where
  | bold
  | dim
  | italic
  | underline
  | blink
  | blink2
  | reverse
  | conceal
  | strike
  | underline2
  | frame
  | encircle
  | overline
deriving DecidableEq, Repr

/-- The attributes in their order, each with its name and the shorter name that it may have. -/
def attributeNames : List (Attribute × String × Option String) :=
  [(.bold, "bold", "b"), (.dim, "dim", "d"), (.italic, "italic", "i"),
   (.underline, "underline", "u"), (.blink, "blink", none), (.blink2, "blink2", none),
   (.reverse, "reverse", "r"), (.conceal, "conceal", "c"), (.strike, "strike", "s"),
   (.underline2, "underline2", "uu"), (.frame, "frame", none), (.encircle, "encircle", none),
   (.overline, "overline", "o")]

/-- The attribute of a name. -/
def Attribute.ofName? (name : Text) : Option Attribute :=
  let name := String.ofList name
  (attributeNames.find? fun (_, full, short) => full == name || short == some name).map (·.1)

/-- A style: the attributes that it turns on or off, the last word on each coming first, and the
    colours and the link that it gives. -/
structure Style where
  attributes : List (Attribute × Bool) := []
  colour : Option Text := none
  background : Option Text := none
  link : Option Text := none
deriving DecidableEq, Repr

namespace Style

/-- Read the words of a style on top of a style. -/
def readWords : Style → List Text → Except ColourFault Style
  | style, [] => .ok style
  | style, word :: rest =>
    if lower word == "on".toList then
      match rest with
      | [] => .error .unknown
      | colour :: rest => do
        checkColour (lower colour)
        readWords { style with background := some (lower colour) } rest
    else if lower word == "not".toList then
      match rest with
      | [] => .error .unknown
      | name :: rest =>
        match Attribute.ofName? name with
        | some a => readWords { style with attributes := (a, false) :: style.attributes } rest
        | none => .error .unknown
    else if lower word == "link".toList then
      match rest with
      | [] => .error .unknown
      | url :: rest => readWords { style with link := some url } rest
    else match Attribute.ofName? (lower word) with
      | some a => readWords { style with attributes := (a, true) :: style.attributes } rest
      | none => do
        checkColour (lower word)
        readWords { style with colour := some (lower word) } rest

/-- Read a style. -/
def ofText (s : Text) : Except ColourFault Style :=
  if Text.trimBlank s == "none".toList then .ok {}
  else readWords {} (Text.words isBlank s)

/-- The words of an attribute in a style that says something about it. -/
def attributeWords (style : Style) (a : Attribute) (name : String) : List Text :=
  match style.attributes.lookup a with
  | some true => [name.toList]
  | some false => ["not".toList, name.toList]
  | none => []

/-- A style as text: attributes, colour, background and link in this order. -/
def toText (style : Style) : Text :=
  let words := attributeNames.flatMap (fun (a, name, _) => style.attributeWords a name) ++
    style.colour.toList ++
    (match style.background with
      | some colour => ["on".toList, colour]
      | none => []) ++
    (match style.link with
      | some url => ["link".toList, url]
      | none => [])
  if words.isEmpty then "none".toList else Text.join [' '] words

/-- The normal form of a text that should be a style. A text that is none stands for itself, in
    lower case. -/
def normalText (s : Text) : Except ColourFault Text :=
  match ofText s with
  | .ok style => .ok style.toText
  | .error .unknown => .ok (lower (Text.trimBlank s))
  | .error .unreadablePart => .error .unreadablePart

end Style

end Docpress.Console
