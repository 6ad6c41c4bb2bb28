import PivotTable.Yaml.Token

/-!
# Reading YAML texts

A text holds one document, which the tokens of the text make up: blocks and brackets nest, and where a node
could stand but none does, nothing is read.
-/
namespace PivotTable.Yaml

/-- A reader of the tokens at the start of a row, and those that are left. -/
abbrev Reads (α : Type) := List Token → Option (α × List Token)

/-- Reads nothing where one of some tokens stands. -/
def unlessAt (stops : List Token) (read : Reads Yaml) : Reads Yaml := fun tokens =>
  if tokens.head?.any stops.contains then some (nothing, tokens) else read tokens

def behindColon (stops : List Token) (read : Reads Yaml) : Reads Yaml
  | .value :: tokens => unlessAt stops read tokens
  | tokens => some (nothing, tokens)

def blockStops : List Token := [.key, .value, .blockEnd]
def itemStops : List Token := [.dash, .blockEnd]
def bareItemStops : List Token := [.dash, .key, .value, .blockEnd]
def bracketStops : List Token := [.comma, .closeBracket]
def braceStops : List Token := [.comma, .closeBrace]

mutual

/-- A node. Blocks are read only where `block` allows them, and dashes without a block of their own only
where `bare` does. -/
def node? : Nat → (block bare : Bool) → Reads Yaml
  | 0, _, _, _ => none
  | fuel + 1, block, bare, tokens =>
    match tokens with
    | .plain text :: tokens => some (.plain text, tokens)
    | .quoted text :: tokens => some (.quoted text, tokens)
    | .openBracket :: tokens => do
      let (items, tokens) ← bracketed? fuel tokens
      some (.seq items, tokens)
    | .openBrace :: tokens => do
      let (members, tokens) ← braced? fuel tokens
      some (.map members, tokens)
    | .dash :: _ =>
      if bare then do
        let (items, tokens) ← bareItems? fuel tokens
        some (.seq items, tokens)
      else none
    | .itemBlock :: tokens =>
      if block then do
        let (items, tokens) ← items? fuel tokens
        some (.seq items, tokens)
      else none
    | .memberBlock :: tokens =>
      if block then do
        let (members, tokens) ← members? fuel tokens
        some (.map members, tokens)
      else none
    | _ => none

def items? : Nat → Reads (List Yaml)
  | 0, _ => none
  | fuel + 1, tokens =>
    match tokens with
    | .dash :: tokens => do
      let (item, tokens) ← unlessAt itemStops (node? fuel true false) tokens
      let (items, tokens) ← items? fuel tokens
      some (item :: items, tokens)
    | .blockEnd :: tokens => some ([], tokens)
    | _ => none

/-- The items of which the dashes stand in the column of the key before them. -/
def bareItems? : Nat → Reads (List Yaml)
  | 0, _ => none
  | fuel + 1, tokens =>
    match tokens with
    | .dash :: tokens => do
      let (item, tokens) ← unlessAt bareItemStops (node? fuel true false) tokens
      let (items, tokens) ← bareItems? fuel tokens
      some (item :: items, tokens)
    | tokens => some ([], tokens)

def members? : Nat → Reads (List (Yaml × Yaml))
  | 0, _ => none
  | fuel + 1, tokens =>
    match tokens with
    | .key :: tokens => do
      let (key, tokens) ← unlessAt blockStops (node? fuel true true) tokens
      let (value, tokens) ← behindColon blockStops (node? fuel true true) tokens
      let (members, tokens) ← members? fuel tokens
      some ((key, value) :: members, tokens)
    | .blockEnd :: tokens => some ([], tokens)
    | _ => none

/-- The items up to the closing bracket; a comma may stand in front of it. -/
def bracketed? : Nat → Reads (List Yaml)
  | 0, _ => none
  | fuel + 1, tokens =>
    match tokens with
    | .closeBracket :: tokens => some ([], tokens)
    | tokens => do
      let (item, tokens) ← bracketedItem? fuel tokens
      match tokens with
      | .comma :: tokens =>
        let (items, tokens) ← bracketed? fuel tokens
        some (item :: items, tokens)
      | .closeBracket :: tokens => some ([item], tokens)
      | _ => none

/-- An item in brackets, which may be a single member. A question mark without a key takes the place of the
token behind it. -/
def bracketedItem? : Nat → Reads Yaml
  | 0, _ => none
  | fuel + 1, tokens =>
    match tokens with
    | .key :: tokens => do
      let (key, tokens) ←
        if tokens.head?.any (Token.value :: bracketStops).contains then some (nothing, tokens.tail)
        else node? fuel false false tokens
      let (value, tokens) ← behindColon bracketStops (node? fuel false false) tokens
      some (.map [(key, value)], tokens)
    | tokens => node? fuel false false tokens

/-- The members up to the closing brace; a comma may stand in front of it. -/
def braced? : Nat → Reads (List (Yaml × Yaml))
  | 0, _ => none
  | fuel + 1, tokens =>
    match tokens with
    | .closeBrace :: tokens => some ([], tokens)
    | tokens => do
      let (member, tokens) ← bracedMember? fuel tokens
      match tokens with
      | .comma :: tokens =>
        let (members, tokens) ← braced? fuel tokens
        some (member :: members, tokens)
      | .closeBrace :: tokens => some ([member], tokens)
      | _ => none

/-- A member in braces, of which the value may be left out. -/
def bracedMember? : Nat → Reads (Yaml × Yaml)
  | 0, _ => none
  | fuel + 1, tokens =>
    match tokens with
    | .key :: tokens => do
      let (key, tokens) ← unlessAt (.value :: braceStops) (node? fuel false false) tokens
      let (value, tokens) ← behindColon braceStops (node? fuel false false) tokens
      some ((key, value), tokens)
    | tokens => do
      let (key, tokens) ← node? fuel false false tokens
      some ((key, nothing), tokens)

end

def rootNode? (tokens : List Token) : Option (Yaml × List Token) :=
  node? (3 * tokens.length + 1) true false tokens

def ofTokens? (tokens : List Token) : Option Yaml := do
  let (node, tokens) ←
    match tokens with
    | [] | [.documentStart] => some (nothing, [])
    | .documentStart :: tokens => unlessAt [.documentStart, .documentEnd] rootNode? tokens
    | tokens => rootNode? tokens
  if tokens.all (· == .documentEnd) then some node else none

/-- The document of a text; a text without one says nothing. -/
def read? (text : String) : Option Yaml := (Token.ofText? text).bind ofTokens?

end PivotTable.Yaml
