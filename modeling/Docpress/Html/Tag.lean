import Docpress.Text.Blank
/-!
Raw HTML in a document: the six kinds of tag that may stand in running text, and the seven ways in
which a line can begin a block of HTML.
-/

namespace Docpress.Html

/-- A character of a tag's name after its first letter. -/
def isTagNameChar (c : Char) : Bool :=
  c.isAlphanum || c == '-'

/-- A character that an attribute's name may begin with. -/
def isAttributeStart (c : Char) : Bool :=
  c.isAlpha || c == '_' || c == ':'

/-- A character that an attribute's name may go on with. -/
def isAttributeChar (c : Char) : Bool :=
  c.isAlphanum || c == ':' || c == '.' || c == '_' || c == '-'

/-- A character of an attribute value without quotes. -/
def isUnquoted (c : Char) : Bool :=
  32 < c.toNat && !("\"'=<>\x60".toList.contains c)

/-- What follows a value without quotes: the text after the whole run first, and then, from the
    last on, the texts after the parts of it that end before a blank. -/
def afterUnquoted (s : Text) : List Text :=
  let run := s.takeWhile isUnquoted
  let shorter := (List.range run.length).reverse.filterMap fun n =>
    match s.drop n with
    | c :: rest => if 0 < n && isBlank c then some (c :: rest) else none
    | [] => none
  if run.isEmpty then [] else s.drop run.length :: shorter

/-- What follows a quoted value after its opening quote. -/
def afterQuoted (quote : Char) (s : Text) : List Text :=
  match s.dropWhile (· != quote) with
  | _ :: rest => [rest]
  | [] => []

/-- What may follow an attribute after its name: with the value if there is one, and without. -/
def afterValue (s : Text) : List Text :=
  (match s.dropWhile isBlank with
  | '=' :: rest =>
    match rest.dropWhile isBlank with
    | '"' :: rest => afterQuoted '"' rest
    | '\'' :: rest => afterQuoted '\'' rest
    | rest => afterUnquoted rest
  | _ => []) ++ [s]

/-- What follows a tag after its name: attributes, blanks and the closing bracket, which a slash
    may precede. -/
def afterAttributes? : (fuel : Nat) → Text → Option Text
  | 0, _ => none
  | fuel + 1, s =>
    let rest := s.dropWhile isBlank
    match rest with
    | [] => none
    | '>' :: rest => some rest
    | '/' :: rest => if rest.head? == some '>' then some (rest.drop 1) else none
    | c :: name =>
      if isAttributeStart c && rest.length < s.length then
        (afterValue (name.dropWhile isAttributeChar)).findSome? (afterAttributes? fuel)
      else none

/-- What follows the opening tag that a text begins with. -/
def afterOpenTag? : Text → Option Text
  | '<' :: c :: s =>
    if c.isAlpha then afterAttributes? s.length (s.dropWhile isTagNameChar) else none
  | _ => none

/-- What follows the closing tag that a text begins with. -/
def afterCloseTag? : Text → Option Text
  | '<' :: '/' :: c :: s =>
    if c.isAlpha then
      match (s.dropWhile isTagNameChar).dropWhile isBlank with
      | '>' :: rest => some rest
      | _ => none
    else none
  | _ => none

/-- What follows the body of a comment and its end. -/
def afterCommentBody? : Text → Option Text
  | '-' :: '-' :: '>' :: s => some s
  | '-' :: '-' :: _ :: s => afterCommentBody? s
  | '-' :: _ :: s => afterCommentBody? s
  | '-' :: [] => none
  | _ :: s => afterCommentBody? s
  | [] => none

/-- What follows the comment that a text begins with. -/
def afterComment? (s : Text) : Option Text :=
  match Text.dropLead? "<!--".toList s with
  | some ('>' :: rest) => some rest
  | some ('-' :: '>' :: rest) => some rest
  | some rest => afterCommentBody? rest
  | none => none

/-- What follows the processing instruction that a text begins with. -/
def afterProcessing? (s : Text) : Option Text := do
  let rest ← Text.dropLead? "<?".toList s
  let (_, rest) ← Text.splitFirst? "?>".toList rest
  return rest

/-- What follows the declaration that a text begins with. -/
def afterDeclaration? : Text → Option Text
  | '<' :: '!' :: c :: s =>
    if c.isAlpha then
      match s.dropWhile (· != '>') with
      | _ :: rest => some rest
      | [] => none
    else none
  | _ => none

/-- What follows the section of character data that a text begins with. -/
def afterCharacterData? (s : Text) : Option Text := do
  let rest ← Text.dropLead? "<![CDATA[".toList s
  let (_, rest) ← Text.splitFirst? "]]>".toList rest
  return rest

/-- The tag, of any kind, that a text begins with, and what follows it. -/
def tag? (s : Text) : Option (Text × Text) :=
  (afterOpenTag? s <|> afterCloseTag? s <|> afterComment? s <|> afterProcessing? s <|>
    afterDeclaration? s <|> afterCharacterData? s).map fun rest =>
    (s.take (s.length - rest.length), rest)

/-- An opening tag of a link. -/
def opensLink : Text → Bool
  | '<' :: a :: c :: _ => (a == 'a' || a == 'A') && (c == '>' || isBlank c)
  | _ => false

/-- A closing tag of a link. -/
def closesLink : Text → Bool
  | '<' :: '/' :: a :: s => (a == 'a' || a == 'A') && (s.dropWhile isBlank).head? == some '>'
  | _ => false

/-- The ways in which a line begins a block of HTML. -/
inductive BlockStart where
  /-- A tag whose content is not marked up: a script, preformatted text, a style, a text area. -/
  | verbatim
  | comment
  | processing
  | declaration
  | characterData
  /-- A tag of a block element. -/
  | blockTag
  /-- Any other complete tag that has the line to itself. -/
  | loneTag
deriving DecidableEq, Repr

/-- The elements whose content is not marked up. -/
def verbatimElements : List Text :=
  ["script".toList, "pre".toList, "style".toList, "textarea".toList]

/-- The block elements. -/
def blockElements : List Text :=
  ["address".toList, "article".toList, "aside".toList, "base".toList, "basefont".toList,
    "blockquote".toList, "body".toList, "caption".toList, "center".toList, "col".toList,
    "colgroup".toList, "dd".toList, "details".toList, "dialog".toList, "dir".toList, "div".toList,
    "dl".toList, "dt".toList, "fieldset".toList, "figcaption".toList, "figure".toList,
    "footer".toList, "form".toList, "frame".toList, "frameset".toList, "h1".toList, "h2".toList,
    "h3".toList, "h4".toList, "h5".toList, "h6".toList, "head".toList, "header".toList,
    "hr".toList, "html".toList, "iframe".toList, "legend".toList, "li".toList, "link".toList,
    "main".toList, "menu".toList, "menuitem".toList, "nav".toList, "noframes".toList, "ol".toList,
    "optgroup".toList, "option".toList, "p".toList, "param".toList, "search".toList,
    "section".toList, "summary".toList, "table".toList, "tbody".toList, "td".toList,
    "tfoot".toList, "th".toList, "thead".toList, "title".toList, "tr".toList, "track".toList,
    "ul".toList]

/-- What follows one of the names at the start of a text, if `next` holds of it. -/
def afterName? (names : List Text) (next : Text → Bool) (s : Text) : Option Text :=
  names.findSome? fun name =>
    if (s.take name.length).map Char.toLower == name && next (s.drop name.length) then
      some (s.drop name.length)
    else none

/-- The text is at an end, at a blank or at a closing bracket. -/
def endsName : Text → Bool
  | [] => true
  | c :: _ => isBlank c || c == '>'

/-- The text is at an end, at a blank or at a closing bracket, which a slash may precede. -/
def endsBlockName : Text → Bool
  | '/' :: '>' :: _ => true
  | s => endsName s

/-- The way in which a line without its indentation begins a block of HTML. -/
def blockStart? (line : Text) : Option BlockStart :=
  let name := line.drop 1
  let blockName := if name.head? == some '/' then name.drop 1 else name
  if line.head? != some '<' then none
  else if (afterName? verbatimElements endsName name).isSome then some .verbatim
  else if Text.startsWith line "<!--".toList then some .comment
  else if Text.startsWith line "<?".toList then some .processing
  else if Text.startsWith line "<!".toList && (line.drop 2).head?.any Char.isAlpha then
    some .declaration
  else if Text.startsWith line "<![CDATA[".toList then some .characterData
  else if (afterName? blockElements endsBlockName blockName).isSome then some .blockTag
  else match afterOpenTag? line <|> afterCloseTag? line with
    | some rest => if rest.all isBlank then some .loneTag else none
    | none => none

/-- A line without its indentation ends the block that began so. -/
def endsBlock : BlockStart → Text → Bool
  | .verbatim, line => closesVerbatim line
  | .comment, line => Text.hasPart "-->".toList line
  | .processing, line => Text.hasPart "?>".toList line
  | .declaration, line => line.any (· == '>')
  | .characterData, line => Text.hasPart "]]>".toList line
  | .blockTag, line => line.isEmpty
  | .loneTag, line => line.isEmpty
where
  /-- Some closing tag of a verbatim element stands in the line. -/
  closesVerbatim : Text → Bool
    | [] => false
    | c :: s =>
      (c == '<' && s.head? == some '/' &&
        (afterName? verbatimElements (·.head? == some '>') (s.drop 1)).isSome) || closesVerbatim s

/-- A block that begins so may end a paragraph. -/
def BlockStart.interrupts : BlockStart → Bool
  | .loneTag => false
  | _ => true

end Docpress.Html
