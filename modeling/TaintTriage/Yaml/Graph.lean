import TaintTriage.Yaml.Look
import TaintTriage.Yaml.Token

/-!
The graphs of YAML documents.  A node is known by its number; a collection refers to the nodes in
it, so that a node with an anchor can stand in several places, and even in itself.  Tags are
resolved while the tokens are read.  A token that stands for nothing is a fault of its own where it
is met; otherwise a document that cannot be read is just malformed.
-/

namespace TaintTriage.Yaml

/-- What a node holds.  Collections hold the numbers of other nodes. -/
inductive Content where
  | scalar (text : String)
  | sequence (items : List Nat)
  | mapping (entries : List (Nat × Nat))
deriving DecidableEq, Repr, Inhabited

/-- A node of a document. -/
structure Node where
  tag : Tag
  content : Content
deriving DecidableEq, Repr, Inhabited

/-- A document: its nodes and the number of the one that holds all others.  It is recursive if some
node stands in itself. -/
structure Graph where
  nodes : Array Node
  root : Nat
  isRecursive : Bool
deriving DecidableEq, Repr

/-- How far the tokens of a document have been read.  Every anchor has the number of its node, and
`outer` holds those of the collections that are not finished. -/
structure Reading where
  tokens : List Token
  handles : List (String × String)
  anchors : List (String × Nat) := []
  nodes : Array Node := #[]
  outer : List Nat := []
  isRecursive : Bool := false

/-- The handles that need no directive. -/
def usualHandles : List (String × String) := [("!", "!"), ("!!", coreAddress)]

/-- The tag that stands for none. -/
def noTag : String := "!"

namespace Reading

def behind (r : Reading) (rest : List Token) : Reading :=
  { r with tokens := rest }

def fault (r : Reading) : Fault :=
  match r.tokens with
  | .broken cause :: _ => .unfit cause
  | _ => .malformed

/-- The address of a tag, which stands before the next token. -/
def addressOf (r : Reading) (handle : Option String) (suffix : String) : Except Fault String :=
  match handle with
  | none => .ok suffix
  | some handle =>
      match r.handles.lookup handle with
      | some address => .ok (address ++ suffix)
      | none => .error .malformed

/-- The anchor and the tag in front of a tree, in either order.  A tag is resolved when it is clear
whether an anchor follows. -/
def properties (r : Reading) : Except Fault (Option String × Option String × Reading) :=
  match r.tokens with
  | .anchor name :: .tag handle suffix :: rest | .tag handle suffix :: .anchor name :: rest =>
      (r.addressOf handle suffix).map fun tag => (some name, some tag, r.behind rest)
  | .anchor _ :: .broken cause :: _ | .tag _ _ :: .broken cause :: _ => .error (.unfit cause)
  | .anchor name :: rest => .ok (some name, none, r.behind rest)
  | .tag handle suffix :: rest =>
      (r.addressOf handle suffix).map fun tag => (none, some tag, r.behind rest)
  | _ => .ok (none, none, r)

def nextNode (r : Reading) : Nat := r.nodes.size

/-- Add a node and name it by its anchor, if it has one.  A name is given once. -/
def add (r : Reading) (anchor : Option String) (node : Node) : Except Fault Reading :=
  match anchor with
  | none => .ok { r with nodes := r.nodes.push node }
  | some name =>
      if (r.anchors.lookup name).isSome then .error .malformed
      else .ok {
        r with anchors := (name, r.nextNode) :: r.anchors, nodes := r.nodes.push node }

/-- Add the node that stands where one is left out. -/
def addAbsent (r : Reading) : Nat × Reading :=
  (r.nextNode, { r with nodes := r.nodes.push ⟨.ofLook "", .scalar ""⟩ })

/-- Nothing in front of some tokens, else a node. -/
def orAbsent (stop : Token → Bool) (read : Reading → Except Fault (Nat × Reading)) (r : Reading) :
    Except Fault (Nat × Reading) :=
  match r.tokens with
  | token :: _ => if stop token then .ok r.addAbsent else read r
  | [] => read r

/-- The tag of a scalar.  A plain one goes by its look, and so does one whose tag stands for
none. -/
def scalarTag (address : Option String) (text : String) (isPlain : Bool) : Tag :=
  match address with
  | none => if isPlain then .ofLook text else .str
  | some address => if address = noTag then .ofLook text else .ofAddress address

def collectionTag (usual : Tag) (address : Option String) : Tag :=
  match address with
  | none => usual
  | some address => if address = noTag then usual else .ofAddress address

def scalar (r : Reading) (anchor address : Option String) (text : String) (isPlain : Bool) :
    Except Fault (Nat × Reading) :=
  (r.add anchor ⟨scalarTag address text isPlain, .scalar text⟩).map fun next => (r.nextNode, next)

/-- Add a collection, whose content is read behind it: nodes inside it may refer to it. -/
def collection {α : Type} (r : Reading) (anchor : Option String) (tag : Tag)
    (content : List α → Content) (read : Reading → Except Fault (List α × Reading)) :
    Except Fault (Nat × Reading) := do
  let number := r.nextNode
  let inside ← r.add anchor ⟨tag, content []⟩
  let (parts, behind) ← read { inside with outer := number :: r.outer }
  return (number, { behind with
    nodes := behind.nodes.setIfInBounds number ⟨tag, content parts⟩
    outer := r.outer })

/-- The node that an alias stands for. -/
def aliased (r : Reading) (name : String) : Except Fault (Nat × Reading) :=
  match r.anchors.lookup name with
  | some number =>
      .ok (number, { r with isRecursive := r.isRecursive || r.outer.contains number })
  | none => .error .malformed

mutual

/-- The node that begins here.  `isBlock` tells whether it may be a collection outside brackets,
`isLoose` whether the entries of a list may stand in the column of what they belong to. -/
def node (isBlock isLoose : Bool) : Nat → Reading → Except Fault (Nat × Reading)
  | 0, _ => .error .malformed
  | fuel + 1, r =>
      match r.tokens with
      | .alias name :: rest => (r.behind rest).aliased name
      | _ => do
          let (anchor, address, r) ← r.properties
          let sequence := collectionTag .seq address
          let mapping := collectionTag .map address
          match r.tokens with
          | .scalar text isPlain :: rest => (r.behind rest).scalar anchor address text isPlain
          | .flowSequence :: rest =>
              (r.behind rest).collection anchor sequence .sequence (flowItems true fuel [])
          | .flowMapping :: rest =>
              (r.behind rest).collection anchor mapping .mapping (flowEntries true fuel [])
          | .blockSequence :: rest =>
              if isBlock then
                (r.behind rest).collection anchor sequence .sequence (blockItems false fuel [])
              else .error .malformed
          | .blockMapping :: rest =>
              if isBlock then
                (r.behind rest).collection anchor mapping .mapping (blockEntries fuel [])
              else .error .malformed
          | .entry :: _ =>
              if isLoose then r.collection anchor sequence .sequence (blockItems true fuel [])
              else if anchor.isSome || address.isSome then r.scalar anchor address "" true
              else .error .malformed
          | .broken cause :: _ => .error (.unfit cause)
          | _ =>
              if anchor.isSome || address.isSome then r.scalar anchor address "" true
              else .error .malformed

/-- The items of a list outside brackets.  A loose one is not closed by a token of its own. -/
def blockItems (isLoose : Bool) : Nat → List Nat → Reading → Except Fault (List Nat × Reading)
  | 0, _, _ => .error .malformed
  | fuel + 1, items, r =>
      match r.tokens with
      | .entry :: rest => do
          let stops (t : Token) : Bool :=
            t == .entry || t == .blockEnd || (isLoose && (t == .key || t == .value))
          let (item, r) ← orAbsent stops (node true false fuel) (r.behind rest)
          blockItems isLoose fuel (item :: items) r
      | .blockEnd :: rest =>
          if isLoose then return (items.reverse, r) else return (items.reverse, r.behind rest)
      | _ => if isLoose then return (items.reverse, r) else throw r.fault

/-- The entries of a mapping outside brackets. -/
def blockEntries :
    Nat → List (Nat × Nat) → Reading → Except Fault (List (Nat × Nat) × Reading)
  | 0, _, _ => .error .malformed
  | fuel + 1, entries, r =>
      let stops (t : Token) : Bool := t == .key || t == .value || t == .blockEnd
      match r.tokens with
      | .key :: rest => do
          let (key, r) ← orAbsent stops (node true true fuel) (r.behind rest)
          match r.tokens with
          | .value :: rest => do
              let (value, r) ← orAbsent stops (node true true fuel) (r.behind rest)
              blockEntries fuel ((key, value) :: entries) r
          | _ =>
              let (value, r) := r.addAbsent
              blockEntries fuel ((key, value) :: entries) r
      | .blockEnd :: rest => return (entries.reverse, r.behind rest)
      | _ => throw r.fault

/-- The items of a list in brackets.  An item may be a mapping with a single entry. -/
def flowItems (isFirst : Bool) : Nat → List Nat → Reading → Except Fault (List Nat × Reading)
  | 0, _, _ => .error .malformed
  | fuel + 1, items, r =>
      match r.tokens with
      | .flowSequenceEnd :: rest => return (items.reverse, r.behind rest)
      | _ => do
          let r ←
            if isFirst then pure r
            else
              match r.tokens with
              | .comma :: rest => pure (r.behind rest)
              | _ => throw r.fault
          match r.tokens with
          | .key :: rest => do
              let (item, r) ← (r.behind rest).collection none .map .mapping (flowPair fuel)
              flowItems false fuel (item :: items) r
          | .flowSequenceEnd :: rest => return (items.reverse, r.behind rest)
          | _ => do
              let (item, r) ← node false false fuel r
              flowItems false fuel (item :: items) r

/-- The single entry of a mapping that stands in brackets without braces. -/
def flowPair : Nat → Reading → Except Fault (List (Nat × Nat) × Reading)
  | 0, _ => .error .malformed
  | fuel + 1, r => do
      let stops (t : Token) : Bool := t == .value || t == .comma || t == .flowSequenceEnd
      let (key, r) ← orAbsent stops (node false false fuel) r
      match r.tokens with
      | .value :: rest => do
          let ends (t : Token) : Bool := t == .comma || t == .flowSequenceEnd
          let (value, r) ← orAbsent ends (node false false fuel) (r.behind rest)
          return ([(key, value)], r)
      | _ => do
          let (value, r) := r.addAbsent
          return ([(key, value)], r)

/-- The entries of a mapping in braces.  A node without a colon behind it is a key. -/
def flowEntries (isFirst : Bool) :
    Nat → List (Nat × Nat) → Reading → Except Fault (List (Nat × Nat) × Reading)
  | 0, _, _ => .error .malformed
  | fuel + 1, entries, r =>
      match r.tokens with
      | .flowMappingEnd :: rest => return (entries.reverse, r.behind rest)
      | _ => do
          let r ←
            if isFirst then pure r
            else
              match r.tokens with
              | .comma :: rest => pure (r.behind rest)
              | _ => throw r.fault
          match r.tokens with
          | .key :: rest => do
              let stops (t : Token) : Bool := t == .value || t == .comma || t == .flowMappingEnd
              let (key, r) ← orAbsent stops (node false false fuel) (r.behind rest)
              match r.tokens with
              | .value :: rest => do
                  let ends (t : Token) : Bool := t == .comma || t == .flowMappingEnd
                  let (value, r) ← orAbsent ends (node false false fuel) (r.behind rest)
                  flowEntries false fuel ((key, value) :: entries) r
              | _ =>
                  let (value, r) := r.addAbsent
                  flowEntries false fuel ((key, value) :: entries) r
          | .flowMappingEnd :: rest => return (entries.reverse, r.behind rest)
          | _ => do
              let (key, r) ← node false false fuel r
              let (value, r) := r.addAbsent
              flowEntries false fuel ((key, value) :: entries) r

end

/-- The directives in front of a document: the handles and the rest, for which the flag tells
whether a version was given.  The version is of the first major kind and given once, as every handle
is. -/
def directives : Bool → List (String × String) → List Token →
    Except Fault (List (String × String) × List Token)
  | hasVersion, handles, .versionLine major :: rest =>
      if hasVersion || major != 1 then .error .malformed else directives true handles rest
  | hasVersion, handles, .tagLine handle uri :: rest =>
      if (handles.lookup handle).isSome then .error .malformed
      else directives hasVersion ((handle, uri) :: handles) rest
  | hasVersion, handles, .otherLine :: rest => directives hasVersion handles rest
  | _, handles, rest => .ok (handles, rest)

/-- Whether a token can only stand between documents. -/
def isOutside : Token → Bool
  | .versionLine _ | .tagLine _ _ | .otherLine | .documentStart | .documentEnd => true
  | _ => false

/-- The beginning of a document: its directives and a mark, or a first token that needs neither.
The flag tells whether there is a mark. -/
def start (tokens : List Token) : Except Fault (Bool × Reading) := do
  match tokens with
  | first :: _ =>
      if isOutside first && first != .documentEnd then do
        let (handles, rest) ← directives false [] tokens
        let r : Reading := { tokens := rest, handles := handles ++ usualHandles }
        match rest with
        | .documentStart :: rest => return (true, r.behind rest)
        | _ => throw r.fault
      else return (false, { tokens, handles := usualHandles })
  | [] => throw .malformed

/-- The node at the root of a document, which may be left out where the document has a mark at its
beginning. -/
def rootNode (mayBeAbsent : Bool) (r : Reading) : Except Fault (Nat × Reading) :=
  let isEmpty :=
    match r.tokens with
    | [] => true
    | token :: _ => isOutside token
  if mayBeAbsent && isEmpty then .ok r.addAbsent
  else node true false (3 * r.tokens.length + 3) r

/-- Refuses a further document behind the marks that end one. -/
def finish (r : Reading) : Except Fault Unit := do
  let rest := r.tokens.dropWhile (· == .documentEnd)
  if !rest.isEmpty then
    let (isMarked, next) ← start rest
    throw (if isMarked then .malformed else next.fault)

/-- The single document that some tokens make up; no tokens make up none. -/
def document? (tokens : List Token) : Except Fault (Option Graph) := do
  if tokens.isEmpty then return none
  let (isMarked, r) ← start tokens
  let (root, r) ← rootNode isMarked r
  r.finish
  return some ⟨r.nodes, root, r.isRecursive⟩

end Reading

end TaintTriage.Yaml
