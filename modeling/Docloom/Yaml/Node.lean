import Docloom.Yaml.Token

/-!
# Nodes of a YAML text

The tokens of a text make one node: a scalar, a sequence or a mapping. A node may
have a tag, and a name by which aliases stand for it.
-/

namespace Docloom
namespace Yaml

/-- What stands before a node. -/
structure Properties where
  anchor : Option String := none
  tag : Option String := none
  deriving DecidableEq, Repr

inductive Node where
  | alias (name : String)
  | scalar (properties : Properties) (text : String) (plain : Bool)
  | sequence (properties : Properties) (items : List Node)
  | mapping (properties : Properties) (entries : List (Node × Node))
  deriving Repr

namespace Node

/-- A node of which nothing is written. -/
def blank (properties : Properties) : Node := .scalar properties "" true

/-- What the handles of tags stand for. -/
abbrev Handles := List (String × String)

def defaultHandles : Handles := [("!", "!"), ("!!", "tag:yaml.org,2002:")]

def fullTag? (handles : Handles) (handle rest : String) : Option String :=
  if handle.isEmpty then some rest else (handles.lookup handle).map (· ++ rest)

/-- Reads anchor and tag of a node, in either order. -/
def readProperties (handles : Handles) (tokens : List Token) :
    Option (Properties × List Token) := do
  match tokens with
  | .anchor name :: .tag handle rest :: tokens =>
      pure (⟨some name, some (← fullTag? handles handle rest)⟩, tokens)
  | .tag handle rest :: .anchor name :: tokens =>
      pure (⟨some name, some (← fullTag? handles handle rest)⟩, tokens)
  | .anchor name :: tokens => pure (⟨some name, none⟩, tokens)
  | .tag handle rest :: tokens => pure (⟨none, some (← fullTag? handles handle rest)⟩, tokens)
  | tokens => pure ({}, tokens)

/-- The tag `!` of a scalar says nothing. -/
def ofScalar (properties : Properties) (text : String) (plain : Bool) : Node :=
  if properties.tag = some "!" then
    .scalar { properties with tag := none } text plain
  else
    .scalar properties text plain

/-- Whether a collection goes on without a node at this place. -/
def endsBlockItem : List Token → Bool
  | [] => true
  | .blockEntry :: _ => true
  | .blockEnd :: _ => true
  | _ => false

def endsBlockKey : List Token → Bool
  | [] => true
  | .key :: _ => true
  | .value :: _ => true
  | .blockEnd :: _ => true
  | _ => false

def endsFlowItem (close : Token) : List Token → Bool
  | [] => true
  | token :: _ => token == .flowEntry || token == close

mutual
/-- Reads a node. Outside of flow collections it may be a block collection, and
inside a block mapping a sequence need not be indented. -/
def readNode (handles : Handles) :
    Nat → Bool → Bool → List Token → Option (Node × List Token)
  | 0, _, _, _ => none
  | fuel + 1, block, indentless, tokens =>
      match tokens with
      | .alias name :: tokens => some (.alias name, tokens)
      | tokens =>
          match readProperties handles tokens with
          | none => none
          | some (properties, tokens) =>
              match tokens with
              | .blockEntry :: _ =>
                  if indentless then
                    (readIndentless handles fuel tokens).map fun read =>
                      (.sequence properties read.1, read.2)
                  else if properties == {} then
                    none
                  else
                    some (blank properties, tokens)
              | .scalar text plain :: tokens => some (ofScalar properties text plain, tokens)
              | .flowSequence :: tokens =>
                  (readFlowItems handles fuel true tokens).map fun read =>
                    (.sequence properties read.1, read.2)
              | .flowMapping :: tokens =>
                  (readFlowEntries handles fuel true tokens).map fun read =>
                    (.mapping properties read.1, read.2)
              | .blockSequence :: rest =>
                  if block then
                    (readItems handles fuel rest).map fun read =>
                      (.sequence properties read.1, read.2)
                  else if properties == {} then
                    none
                  else
                    some (blank properties, tokens)
              | .blockMapping :: rest =>
                  if block then
                    (readEntries handles fuel rest).map fun read =>
                      (.mapping properties read.1, read.2)
                  else if properties == {} then
                    none
                  else
                    some (blank properties, tokens)
              | tokens =>
                  if properties == {} then none else some (blank properties, tokens)

/-- Reads the items of a block sequence and its end. -/
def readItems (handles : Handles) : Nat → List Token → Option (List Node × List Token)
  | 0, _ => none
  | fuel + 1, tokens =>
      match tokens with
      | .blockEnd :: tokens => some ([], tokens)
      | .blockEntry :: tokens => do
          let (item, tokens) ←
            if endsBlockItem tokens then
              some (blank {}, tokens)
            else
              readNode handles fuel true false tokens
          let (items, tokens) ← readItems handles fuel tokens
          pure (item :: items, tokens)
      | _ => none

/-- Reads the items of a block sequence that is not indented. -/
def readIndentless (handles : Handles) : Nat → List Token → Option (List Node × List Token)
  | 0, _ => none
  | fuel + 1, tokens =>
      match tokens with
      | .blockEntry :: tokens => do
          let (item, tokens) ←
            if endsBlockItem tokens || endsBlockKey tokens then
              some (blank {}, tokens)
            else
              readNode handles fuel true false tokens
          let (items, tokens) ← readIndentless handles fuel tokens
          pure (item :: items, tokens)
      | tokens => some ([], tokens)

/-- Reads the entries of a block mapping and its end. -/
def readEntries (handles : Handles) :
    Nat → List Token → Option (List (Node × Node) × List Token)
  | 0, _ => none
  | fuel + 1, tokens =>
      match tokens with
      | .blockEnd :: tokens => some ([], tokens)
      | .key :: tokens => do
          let (key, tokens) ←
            if endsBlockKey tokens then
              some (blank {}, tokens)
            else
              readNode handles fuel true true tokens
          let (value, tokens) ← readValue handles fuel tokens
          let (entries, tokens) ← readEntries handles fuel tokens
          pure ((key, value) :: entries, tokens)
      | .value :: _ => none
      | _ => none

/-- Reads the value of an entry of a block mapping. -/
def readValue (handles : Handles) : Nat → List Token → Option (Node × List Token)
  | 0, _ => none
  | fuel + 1, tokens =>
      match tokens with
      | .value :: tokens =>
          if endsBlockKey tokens then
            some (blank {}, tokens)
          else
            readNode handles fuel true true tokens
      | tokens => some (blank {}, tokens)

/-- Reads the items of a flow sequence and its end. An item may be a mapping of one
entry. -/
def readFlowItems (handles : Handles) :
    Nat → Bool → List Token → Option (List Node × List Token)
  | 0, _, _ => none
  | fuel + 1, first, tokens =>
      match tokens with
      | .flowSequenceEnd :: tokens => some ([], tokens)
      | tokens => do
          let tokens ←
            if first then
              some tokens
            else
              match tokens with
              | .flowEntry :: tokens => some tokens
              | _ => none
          match tokens with
          | .flowSequenceEnd :: tokens => pure ([], tokens)
          | .key :: tokens =>
              let (key, tokens) ←
                if endsFlowItem .flowSequenceEnd tokens || tokens.head? == some .value then
                  some (blank {}, tokens.drop 1)
                else
                  readNode handles fuel false false tokens
              let (value, tokens) ← readFlowValue handles fuel .flowSequenceEnd tokens
              let (items, tokens) ← readFlowItems handles fuel false tokens
              pure (.mapping {} [(key, value)] :: items, tokens)
          | tokens =>
              let (item, tokens) ← readNode handles fuel false false tokens
              let (items, tokens) ← readFlowItems handles fuel false tokens
              pure (item :: items, tokens)

/-- Reads the value of an entry in a flow collection. -/
def readFlowValue (handles : Handles) :
    Nat → Token → List Token → Option (Node × List Token)
  | 0, _, _ => none
  | fuel + 1, close, tokens =>
      match tokens with
      | .value :: tokens =>
          if endsFlowItem close tokens then
            some (blank {}, tokens)
          else
            readNode handles fuel false false tokens
      | tokens => some (blank {}, tokens)

/-- Reads the entries of a flow mapping and its end. -/
def readFlowEntries (handles : Handles) :
    Nat → Bool → List Token → Option (List (Node × Node) × List Token)
  | 0, _, _ => none
  | fuel + 1, first, tokens =>
      match tokens with
      | .flowMappingEnd :: tokens => some ([], tokens)
      | tokens => do
          let tokens ←
            if first then
              some tokens
            else
              match tokens with
              | .flowEntry :: tokens => some tokens
              | _ => none
          match tokens with
          | .flowMappingEnd :: tokens => pure ([], tokens)
          | .key :: tokens =>
              let (key, tokens) ←
                if endsFlowItem .flowMappingEnd tokens || tokens.head? == some .value then
                  some (blank {}, tokens)
                else
                  readNode handles fuel false false tokens
              let (value, tokens) ← readFlowValue handles fuel .flowMappingEnd tokens
              let (entries, tokens) ← readFlowEntries handles fuel false tokens
              pure ((key, value) :: entries, tokens)
          | tokens =>
              let (key, tokens) ← readNode handles fuel false false tokens
              let (entries, tokens) ← readFlowEntries handles fuel false tokens
              pure ((key, blank {}) :: entries, tokens)
end

/-!
# Documents
-/

/-- Reads the directives before a document: whether a version was given, and the
handles of tags. -/
def readDirectives (versioned : Bool) (handles : Handles) :
    List Token → Option (Handles × List Token)
  | .version major minor :: tokens =>
      if versioned || major != 1 || (minor != 1 && minor != 2) then
        none
      else
        readDirectives true handles tokens
  | .handle handle start :: tokens =>
      if (handles.lookup handle).isSome then
        none
      else
        readDirectives versioned ((handle, start) :: handles) tokens
  | tokens => some (handles, tokens)

def endsDocument : List Token → Bool
  | [] => true
  | .documentStart :: _ => true
  | .documentEnd :: _ => true
  | .version .. :: _ => true
  | .handle .. :: _ => true
  | _ => false

/-- The node of a document; none if nothing is written. -/
def readDocument (tokens : List Token) : Option (Option Node × List Token) := do
  match tokens with
  | [] => pure (none, [])
  | tokens =>
      let (handles, rest) ← readDirectives false [] tokens
      let all := handles ++ defaultHandles.filter fun entry => (handles.lookup entry.1).isNone
      let fuel := 4 * tokens.length + 4
      match rest with
      | .documentStart :: rest =>
          if endsDocument rest then
            pure (some (blank {}), rest)
          else
            let (node, rest) ← readNode all fuel true false rest
            pure (some node, rest)
      | rest =>
          if rest.length < tokens.length then
            none
          else
            let (node, rest) ← readNode all fuel true false rest
            pure (some node, rest)

/-- The node of a text that holds one document. -/
def parse? (text : String) : Option (Option Node) := do
  let (node, rest) ← readDocument (← tokens? text)
  if rest.all (· == .documentEnd) then pure node else none

end Node
end Yaml
end Docloom
