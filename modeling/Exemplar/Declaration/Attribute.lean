import Exemplar.Declaration.Rejection

/-!
The attributes of declarations. An attribute has a path and then nothing, a value behind an equals
sign, or a group of tokens. Only attributes with one path count, and only their groups mean
anything: on a type the entries give its identity and its superclass, where the last entry has the
last word, and on a field they say that the field is skipped.
-/

set_option autoImplicit false
set_option relaxedAutoImplicit false

namespace Exemplar

/-- A path: names with double colons between them. A global path begins with a double colon. -/
structure TokenPath where
  isGlobal : Bool
  names : List String
  deriving DecidableEq

/-- Whether a path is a name alone. -/
def TokenPath.isName (path : TokenPath) (name : String) : Bool :=
  !path.isGlobal && path.names = [name]

/-- What stands behind the path of an attribute. -/
inductive AttributeContent
  | absent
  | value
  | group (tokens : List Token)

/-- An attribute. -/
structure Attribute where
  path : TokenPath
  content : AttributeContent

namespace Attribute

/-- The path of the attributes that count. -/
def significantName : String :=
  "prefab"

end Attribute

/-- What stands behind the path of an entry: nothing, an equals sign and a text with or without
other tokens behind it, an equals sign without a text, or other tokens. -/
inductive EntryTail
  | absent
  | text (content : String) (isComplete : Bool)
  | noText (atEnd : Bool)
  | unrelated
  deriving DecidableEq

/-- An entry of an attribute. -/
structure Entry where
  path : TokenPath
  tail : EntryTail
  deriving DecidableEq

namespace Entry

/-- The further names of an entry's path, which may be reserved, and the tokens behind the path. -/
def readFurtherNames (isLast : Bool) : List Token → Except Rejection (List String × List Token)
  | .mark ':' true :: .mark ':' _ :: tokens =>
    match tokens with
    | .name text :: rest => do
      let (names, rest) ← readFurtherNames isLast rest
      return (text :: names, rest)
    | [] => .error (.missingEntrySegment isLast)
    | _ => .error (.missingEntrySegment false)
  | tokens => .ok ([], tokens)
termination_by structural tokens => tokens

/-- The names of an entry's path, and the tokens behind the path. -/
def readNames (isLast : Bool) : List Token → Except Rejection (List String × List Token)
  | .name text :: tokens => do
    let (names, rest) ← readFurtherNames isLast tokens
    return (text :: names, rest)
  | [] => .error (if isLast then .missingEntry else .tokenAsEntry)
  | .literal _ :: _ => .error .literalAsEntry
  | .mark '-' _ :: .literal (.number _) :: _ => .error .literalAsEntry
  | _ => .error .tokenAsEntry

/-- The path of an entry, and the tokens behind it. -/
def readPath (isLast : Bool) : List Token → Except Rejection (TokenPath × List Token)
  | .mark ':' true :: .mark ':' _ :: tokens => do
    let (names, rest) ← readNames isLast tokens
    return (⟨true, names⟩, rest)
  | tokens => do
    let (names, rest) ← readNames isLast tokens
    return (⟨false, names⟩, rest)

/-- What the tokens behind the path of an entry are. -/
def tailOf (isLast : Bool) : List Token → EntryTail
  | [] => .absent
  | .mark '=' _ :: .literal (.text content) :: rest => .text content rest.isEmpty
  | .mark '=' _ :: rest => .noText (isLast && rest.isEmpty)
  | _ => .unrelated

/-- The entry that tokens are. The last entry is followed by the end of all tokens, and any other
one by a comma. -/
def read (isLast : Bool) (tokens : List Token) : Except Rejection Entry := do
  let (path, rest) ← readPath isLast tokens
  return ⟨path, tailOf isLast rest⟩

/-- The entries that the tokens between commas are. The last comma may be followed by nothing. -/
def readAll : List (List Token) → List (Except Rejection Entry)
  | [] => []
  | [tokens] => if tokens.isEmpty then [] else [read true tokens]
  | tokens :: pieces => read false tokens :: readAll pieces

/-- The text behind the equals sign, where nothing else stands behind the path. -/
def text (entry : Entry) : Except Rejection String :=
  match entry.tail with
  | .text content isComplete =>
    if isComplete then .ok content else .error (.missing [.marks ","] false)
  | .noText atEnd => .error (.missing [.quotedText] atEnd)
  | .absent | .unrelated => .error (.missing [.marks "="] false)

/-- Refuses an entry with anything behind its path. -/
def checkBare (entry : Entry) : Except Rejection Unit :=
  match entry.tail with
  | .absent => .ok ()
  | _ => .error (.missing [.marks ","] false)

end Entry

namespace Attribute

/-- The entries of an attribute. Attributes of other paths have none. -/
def entries : Attribute → List (Except Rejection Entry)
  | ⟨path, content⟩ =>
    if path.isName significantName then
      match content with
      | .absent => [.error .missingArguments]
      | .value => [.error .missingParentheses]
      | .group tokens => Entry.readAll (Token.splitAtCommas [] tokens)
    else []

/-- The entries of all attributes, in order. -/
def allEntries (attributes : List Attribute) : List (Except Rejection Entry) :=
  attributes.flatMap entries

end Attribute

/-- What the attributes of a type say. -/
structure TypeOptions where
  identity : Option String
  superclass : Option String

namespace TypeOptions

/-- The options with one more entry. -/
def withEntry (options : TypeOptions) (entry : Entry) : Except Rejection TypeOptions := do
  if entry.path.isName "identity" then return { options with identity := some (← entry.text) }
  else if entry.path.isName "extends" then return { options with superclass := some (← entry.text) }
  else .error .unknownTypeEntry

/-- The options that the attributes of a type give. The first entry that is refused decides. -/
def ofAttributes (attributes : List Attribute) : Except Rejection TypeOptions :=
  (Attribute.allEntries attributes).foldlM (fun options entry ↦ do options.withEntry (← entry))
    ⟨none, none⟩

end TypeOptions

/-- Whether the attributes of a field say that it is skipped. The first entry that is refused
decides. -/
def isSkipped (attributes : List Attribute) : Except Rejection Bool :=
  (Attribute.allEntries attributes).foldlM
    (fun _ entry ↦ do
      let entry ← entry
      if entry.path.isName "skip" then do
        entry.checkBare
        return true
      else .error .unknownFieldEntry)
    false

end Exemplar
