import TaintTriage.Yaml.Object

/-!
The values of documents.  The collections of a document refer to one another; a value holds what is
in it, and a collection that stands in itself becomes a loop.  A collection that stands in several
places is unfolded once.  A text holds at most one document; a text without one holds nothing.
-/

namespace TaintTriage.Yaml

namespace Part

/-- The numbers of the collections at a place. -/
def numbers : Part → List Nat
  | .value _ => []
  | .collection number => [number]

end Part

def Collection.numbers : Collection → List Nat
  | .list items => items.flatMap (·.numbers)
  | .pairs items => items.flatMap fun (first, second) => first.numbers ++ second.numbers
  | .set _ => []
  | .map entries => entries.flatMap (·.2.numbers)

/-- The collections of a document by number. -/
abbrev Collections := Array (Option Collection)

namespace Collections

def inside (cs : Collections) (number : Nat) : List Nat :=
  ((cs.getD number none).map (·.numbers)).getD []

/-- Whether a collection stands in one of those that are still to be looked at, or in a collection
inside them. -/
def standsIn (cs : Collections) (wanted : Nat) : Nat → List Nat → List Nat → Bool
  | 0, _, _ => false
  | _ + 1, _, [] => false
  | fuel + 1, seen, number :: rest =>
      if number = wanted then true
      else if seen.contains number then standsIn cs wanted fuel seen rest
      else standsIn cs wanted fuel (number :: seen) (cs.inside number ++ rest)

/-- The number of all places at which collections stand in others. -/
def places (cs : Collections) : Nat :=
  cs.foldl (fun count c => count + ((c.map (·.numbers.length)).getD 0)) 0

/-- The collections that stand in themselves. -/
def loops (cs : Collections) : List Nat :=
  (List.range cs.size).filter fun number =>
    standsIn cs number (cs.places + 1) [] (cs.inside number)

/-- The value of the collection with a number.  `outer` are the loops that it stands in; the state
keeps the values of collections that are no loops. -/
def unfold (cs : Collections) (loops : List Nat) :
    Nat → List Nat → Nat → StateM (Array (Option Value)) Value
  | 0, _, number => pure (.again number)
  | fuel + 1, outer, number => do
      if outer.contains number then return .again number
      if let some v := (← get).getD number none then return v
      let isLoop := loops.contains number
      let outer := if isLoop then number :: outer else outer
      let value (part : Part) : StateM (Array (Option Value)) Value :=
        match part with
        | .value v => pure v
        | .collection inner => unfold cs loops fuel outer inner
      let body ←
        match cs.getD number none with
        | some (.list items) => do pure (Value.list (← items.mapM value))
        | some (.pairs items) => do
            pure (Value.list (← items.mapM fun (first, second) => do
              return .pair (← value first) (← value second)))
        | some (.set members) => pure (Value.set members)
        | some (.map entries) => do
            pure (Value.map (← entries.mapM fun (key, part) => do return (key, ← value part)))
        | none => pure (Value.list [])
      if isLoop then return .loop number body
      else do
        modify (·.setIfInBounds number (some body))
        return body

def value (cs : Collections) (loops : List Nat) : Part → Value
  | .value v => v
  | .collection number =>
      (Id.run ((unfold cs loops (cs.size + 1) [] number).run (cs.map fun _ => none))).1

end Collections

def Graph.value (g : Graph) : Except Fault Value := do
  let (root, cs) ← g.objects
  let cs : Collections := cs
  return cs.value (if g.isRecursive then cs.loops else []) root

/-- The value that the characters of a text stand for. -/
def readCharacters (s : List Char) : Except Fault Value := do
  if !s.all isAllowed then throw .malformed
  match ← Reading.document? (← orMalformed (tokens? (unifyBreaks s))) with
  | none => return .null
  | some graph => graph.value

def read (text : String) : Except Fault Value :=
  readCharacters text.toList

/-- The value that a text holds, or the empty mapping in place of one that does not count as
true. -/
def readOrEmpty (text : String) : Except Fault Value := do
  let v ← read text
  return if v.isTruthy then v else .map []

end TaintTriage.Yaml
