import PixelTelescope.Markup.Basic

namespace PixelTelescope.Markup

/-- What a document without text of its own holds: the blanks between its parts are left out. -/
inductive Node where
  | instruction (text : String)
  | comment (text : String)
  | element (name : String) (attributes : List (String × String)) (children : List Node)
  deriving Repr

structure Tag where
  name : String
  attributes : List (String × String)

/-- An element whose end tag has not been read, and the nodes that stand before it. -/
structure Frame where
  tag : Tag
  before : List Node

inductive Place where
  | between
  /-- Behind `<`. -/
  | opened
  | bang
  | bangDash
  | comment (text : List Char)
  | commentDash (text : List Char)
  /-- Behind two dashes, which only the end of the comment may follow. -/
  | commentEnd (text : List Char)
  | instruction (text : List Char)
  | instructionEnd (text : List Char)
  | tagName (name : List Char)
  /-- Behind the name or a value. -/
  | tag (tag : Tag)
  | gap (tag : Tag)
  | attributeName (tag : Tag) (name : List Char)
  | equals (tag : Tag) (name : String)
  | value (tag : Tag) (name : String) (text : List Char)
  | entity (tag : Tag) (name : String) (text word : List Char)
  | selfClosing (tag : Tag)
  | endName (name : List Char)

/-- The open elements from the inside out, and the nodes so far in the innermost one. -/
structure State where
  stack : List Frame
  nodes : List Node
  place : Place

def isBlank (c : Char) : Bool := c = ' ' || c = '\t' || c = '\n' || c = '\r'

def isNameStart (c : Char) : Bool := c.isAlpha || c = '_' || c = ':'

def isNameChar (c : Char) : Bool := isNameStart c || c.isDigit || c = '-' || c = '.'

def entity? (word : List Char) : Option Char :=
  if word = "amp".toList then some '&'
  else if word = "lt".toList then some '<'
  else if word = "gt".toList then some '>'
  else if word = "quot".toList then some '"'
  else if word = "apos".toList then some '\''
  else none

namespace State

def goTo (s : State) (place : Place) : Option State := some { s with place }

def add (s : State) (n : Node) : Option State := some ⟨s.stack, s.nodes ++ [n], .between⟩

def goOn (s : State) (tag : Tag) (c : Char) : Option State :=
  if isBlank c then s.goTo (.gap tag)
  else if c = '/' then s.goTo (.selfClosing tag)
  else if c = '>' then some ⟨⟨tag, s.nodes⟩ :: s.stack, [], .between⟩
  else none

def close (s : State) (name : String) : Option State :=
  match s.stack with
  | [] => none
  | frame :: rest =>
    if frame.tag.name = name then
      some ⟨rest, frame.before ++ [.element name frame.tag.attributes s.nodes], .between⟩
    else none

/-- Reads one character. Values stand in double quotes; they hold no `<`, and `&` only where it
begins the name of a character. The attributes of a tag have different names. -/
def step (s : State) (c : Char) : Option State :=
  match s.place with
  | .between =>
    if c = '<' then s.goTo .opened else if isBlank c then some s else none
  | .opened =>
    if c = '!' then s.goTo .bang
    else if c = '?' then s.goTo (.instruction [])
    else if c = '/' then s.goTo (.endName [])
    else if isNameStart c then s.goTo (.tagName [c])
    else none
  | .bang => if c = '-' then s.goTo .bangDash else none
  | .bangDash => if c = '-' then s.goTo (.comment []) else none
  | .comment text =>
    s.goTo (if c = '-' then .commentDash text else .comment (text ++ [c]))
  | .commentDash text =>
    s.goTo (if c = '-' then .commentEnd text else .comment (text ++ ['-', c]))
  | .commentEnd text => if c = '>' then s.add (.comment (.ofList text)) else none
  | .instruction text =>
    s.goTo (if c = '?' then .instructionEnd text else .instruction (text ++ [c]))
  | .instructionEnd text =>
    if c = '>' then s.add (.instruction (.ofList text))
    else s.goTo (if c = '?' then .instructionEnd (text ++ [c]) else .instruction (text ++ ['?', c]))
  | .tagName name =>
    if isNameChar c then s.goTo (.tagName (name ++ [c])) else s.goOn ⟨.ofList name, []⟩ c
  | .tag tag => s.goOn tag c
  | .gap tag =>
    if isNameStart c then s.goTo (.attributeName tag [c]) else s.goOn tag c
  | .attributeName tag name =>
    if isNameChar c then s.goTo (.attributeName tag (name ++ [c]))
    else if c = '=' ∧ String.ofList name ∉ tag.attributes.map (·.1) then
      s.goTo (.equals tag (.ofList name))
    else none
  | .equals tag name => if c = '"' then s.goTo (.value tag name []) else none
  | .value tag name text =>
    if c = '"' then s.goTo (.tag ⟨tag.name, tag.attributes ++ [(name, .ofList text)]⟩)
    else if c = '&' then s.goTo (.entity tag name text [])
    else if c = '<' then none
    else s.goTo (.value tag name (text ++ [c]))
  | .entity tag name text word =>
    if c = ';' then (entity? word).bind fun d => s.goTo (.value tag name (text ++ [d]))
    else s.goTo (.entity tag name text (word ++ [c]))
  | .selfClosing tag =>
    if c = '>' then s.add (.element tag.name tag.attributes []) else none
  | .endName name =>
    if c = '>' then s.close (.ofList name)
    else if isNameChar c then s.goTo (.endName (name ++ [c]))
    else none

def run (s : State) (cs : List Char) : Option State := cs.foldlM step s

end State

namespace Node

def isElement : Node → Bool
  | .element .. => true
  | _ => false

def isNamed (name : String) : Node → Bool
  | .element other _ _ => other = name
  | _ => false

def children : Node → List Node
  | .element _ _ list => list
  | _ => []

def attribute? (name : String) : Node → Option String
  | .element _ attributes _ => attributes.lookup name
  | _ => none

def integer? (name : String) (n : Node) : Option Int := (n.attribute? name).bind String.toInt?

end Node

def elementsAt : List String → List Node → List Node
  | [], _ => []
  | [name], nodes => nodes.filter (·.isNamed name)
  | name :: rest, nodes => elementsAt rest ((nodes.filter (·.isNamed name)).flatMap (·.children))

/-- The nodes of a whole document: one element with all that is in it, and what stands beside
it. -/
def scan (text : String) : Option (List Node) :=
  match State.run ⟨[], [], .between⟩ text.toList with
  | some ⟨[], nodes, .between⟩ => if nodes.countP (·.isElement) = 1 then some nodes else none
  | _ => none

end PixelTelescope.Markup
