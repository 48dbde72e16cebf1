import Docpress.Text.Digit
import Docpress.Text.Quoted
/-!
Faults of YAML documents: where they are and how they are reported.
-/

namespace Docpress.Yaml

/-- A place in a document: how many characters come before, and the line and the column, which are
    counted from zero. -/
structure Mark where
  index : Nat := 0
  line : Nat := 0
  column : Nat := 0
deriving DecidableEq, Repr

/-- The report of a place in the document of a name. -/
def Mark.message (name : Text) (m : Mark) : Text :=
  "  in \"".toList ++ name ++ "\", line ".toList ++ Text.ofNat (m.line + 1) ++
    ", column ".toList ++ Text.ofNat (m.column + 1)

/-- What was being read when a fault was found: the tokens of a document, its structure, its nodes,
    or the values of the nodes. -/
inductive Stage where
  | token
  | event
  | node
  | value
deriving DecidableEq, Repr

/-- A fault at a place, perhaps with the larger thing that it was found in and the place where that
    begins. -/
structure PlacedFault where
  stage : Stage
  context : Option Text
  contextMark : Option Mark
  problem : Text
  mark : Mark
deriving DecidableEq, Repr

/-- The report of a fault. The place of the context is left out if it is the same. -/
def PlacedFault.message (name : Text) (f : PlacedFault) : Text :=
  let isSame (m : Mark) : Bool := m.line == f.mark.line && m.column == f.mark.column
  Text.join ['\n'] (f.context.toList ++
    ((f.contextMark.filter (!isSame ·)).map (Mark.message name)).toList ++
    [f.problem, f.mark.message name])

/-- Why the text of a scalar is no value of its type. -/
inductive ScalarFault where
  | noNumber (base : Nat) (digits : Text)
  /-- A number has more decimal digits than are read. -/
  | longNumber (count : Nat)
  | noReal (digits : Text)
  | emptyNumber
  | noFlag (word : Text)
  | noDate
  /-- A part of a date or a time is out of range. -/
  | badDate (problem : Text)
  /-- An escape names no character. -/
  | noCharacter
  | hugeCharacter
deriving DecidableEq, Repr

/-- The report of a scalar that is no value. Of a text that is no whole number no more than 200
    characters are shown, the quote before them included. -/
def ScalarFault.message : ScalarFault → Text
  | .noNumber base digits =>
    "invalid literal for int() with base ".toList ++ Text.ofNat base ++ ": ".toList ++
      (Text.quoted digits).take 200
  | .longNumber count =>
    "Exceeds the limit (".toList ++ Text.ofNat longestDecimal ++
      " digits) for integer string conversion: value has ".toList ++ Text.ofNat count ++
      " digits; use sys.set_int_max_str_digits() to increase the limit".toList
  | .noReal digits => "could not convert string to float: ".toList ++ Text.quoted digits
  | .emptyNumber => "string index out of range".toList
  | .noFlag word => Text.quoted word
  | .noDate => "'NoneType' object has no attribute 'groupdict'".toList
  | .badDate problem => problem
  | .noCharacter => "chr() arg not in range(0x110000)".toList
  | .hugeCharacter => "Python int too large to convert to C int".toList

/-- A fault of a document. -/
inductive Fault where
  | placed (f : PlacedFault)
  /-- A character that no document may hold, and how many characters come before it. -/
  | character (c : Char) (position : Nat)
  | scalar (f : ScalarFault)
deriving DecidableEq, Repr

/-- The report of a fault in the document of a name. -/
def Fault.message (name : Text) : Fault → Text
  | .placed f => f.message name
  | .character c position =>
    let code := Nat.toDigits 16 c.toNat
    "unacceptable character #x".toList ++ List.replicate (4 - code.length) '0' ++ code ++
      ": special characters are not allowed\n  in \"".toList ++ name ++ "\", position ".toList ++
      Text.ofNat position
  | .scalar f => f.message

/-- A fault in the tokens, found within something that begins at a mark. -/
def tokenFault (context : String) (contextMark : Mark) (problem : Text) (mark : Mark) : Fault :=
  .placed ⟨.token, some context.toList, some contextMark, problem, mark⟩

end Docpress.Yaml
