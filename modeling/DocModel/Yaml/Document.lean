import DocModel.Yaml.Event

/-!
# DocModel.Yaml.Document

The first document of a YAML text as a sequence of nodes laid out flat: texts, references, and the
beginnings and ends of collections.

A reference is a number; `targets` tells at which place of the sequence its value begins. An
anchor that is given again gets the number of the next new one.
-/

namespace DocModel
namespace Yaml

/-- A part of a document. -/
inductive NodeKind where
  | reference (id : Nat)
  | scalar (tag : Option (List Char)) (text : List Char) (style : ScalarStyle)
  | sequenceStart
  | sequenceEnd
  | mappingStart
  | mappingEnd
  | void

/-- A part of a document with its place. -/
structure Node where
  kind : NodeKind
  mark : Mark

/-- Why a document ends before its end. -/
inductive Break where
  /-- It is not well formed. -/
  | problem (p : Problem)
  /-- A reference to an anchor that was not given before. -/
  | unknownAnchor (mark : Mark)

/-- A document as far as it can be read. -/
structure Document where
  nodes : List Node := []
  /-- Where the value of a reference begins. -/
  targets : List (Nat × Nat) := []
  /-- What is wrong after them, if anything. -/
  broken : Option Break := none
  followed : Bool := false

namespace Document

/-- The numbers of the anchors given so far. -/
abbrev Anchors := List (List Char × Nat)

/-- A document that begins with a node. -/
def push (node : Node) (rest : Document) : Document :=
  { rest with nodes := node :: rest.nodes }

/-- The document that these events make up, after `count` of its nodes. -/
def ofEvents (problem : Option Problem) (anchors : Anchors) (count : Nat) :
    List Event → Document
  | [] => { broken := problem.map .problem }
  | event :: rest =>
    let node (kind : NodeKind) : Node := { kind, mark := event.mark }
    let anchored (anchor : Option (List Char)) (kind : NodeKind) : Document :=
      match anchor with
      | some name =>
        let id := anchors.length
        let others := anchors.filter (·.1 != name)
        let document := ofEvents problem ((name, id) :: others) (count + 1) rest
        let targets :=
          if document.targets.any (·.1 == id) then document.targets
          else (id, count) :: document.targets
        push (node kind) { document with targets }
      | none => push (node kind) (ofEvents problem anchors (count + 1) rest)
    match event.kind with
    | .documentStart => ofEvents problem anchors count rest
    | .documentEnd =>
      { followed := match rest with
          | { kind := .streamEnd, .. } :: _ => false
          | _ => true }
    | .streamEnd => { nodes := [node .void] }
    | .reference name =>
      match anchors.lookup name with
      | some id => push (node (.reference id)) (ofEvents problem anchors (count + 1) rest)
      | none => { broken := some (.unknownAnchor event.mark) }
    | .scalar anchor tag text style => anchored anchor (.scalar tag text style)
    | .sequenceStart anchor => anchored anchor .sequenceStart
    | .sequenceEnd => push (node .sequenceEnd) (ofEvents problem anchors (count + 1) rest)
    | .mappingStart anchor => anchored anchor .mappingStart
    | .mappingEnd => push (node .mappingEnd) (ofEvents problem anchors (count + 1) rest)

/-- The first document of a text. -/
def ofText (text : List Char) : Document :=
  let stream := EventStream.ofText text
  ofEvents stream.problem [] 0 stream.events

/-- The parts from the value of a reference on. -/
def target (document : Document) (id : Nat) : List Node :=
  document.nodes.drop ((document.targets.lookup id).getD document.nodes.length)

end Document
end Yaml
end DocModel
