import StackExport.Yaml.Token
/-!
The node tree of a YAML document.

An alias refers to a node by number. A document that names an anchor twice numbers its anchors by
how many names it has seen, so that a repeated name may share its number with the next new one; the
node that took a number last is the one that all its aliases mean.
-/
namespace StackExport.Yaml

/-- A node. A tag is in its long form; a scalar without one may be marked as plain. -/
inductive Node where
  | alias (anchor : Nat)
  | scalar (tag : Option String) (text : String) (plain : Bool)
  | sequence (tag : Option String) (items : List Node)
  | mapping (tag : Option String) (entries : List (Node × Node))

instance : Inhabited Node := ⟨.scalar none "" true⟩

/-- A document: its root, if it has one, and the nodes behind its anchors. -/
structure Document where
  root : Option Node
  anchored : List (Nat × Node)

/-- The properties written before a node. -/
structure Properties where
  /-- True when there is a tag or an anchor. -/
  present : Bool
  tag : Option String
  /-- The number of the node in the order of anchored nodes, if it has an anchor. -/
  slot : Option Nat

/-- The state between two nodes. -/
structure Composer where
  tokens : List Token
  /-- What the handles of tags stand for. -/
  handles : List (String × List UInt8)
  /-- The numbers of the anchors. -/
  anchors : List (String × Nat)
  /-- For each number, the slot of the node that took it last. -/
  slots : List (Nat × Nat)
  /-- The anchored nodes by slot. -/
  nodes : List (Nat × Node)
  nextSlot : Nat

namespace Composer

/-- The token ahead. The last one of a stream is never taken. -/
def head (s : Composer) : Token := s.tokens.head?.getD .streamEnd

/-- Takes a token. -/
def advance (s : Composer) : Composer := { s with tokens := s.tokens.tail }

def anchor (s : Composer) (name : String) : Composer × Nat :=
  let id := s.anchors.length
  let anchors := match s.anchors.find? (·.1 == name) with
    | some _ => s.anchors.map fun (n, i) => if n == name then (n, id) else (n, i)
    | none => s.anchors ++ [(name, id)]
  ({ s with
      anchors := anchors
      slots := (id, s.nextSlot) :: s.slots.filter (·.1 != id)
      nextSlot := s.nextSlot + 1 }, s.nextSlot)

def store (s : Composer) (p : Properties) (n : Node) : Composer :=
  match p.slot with
  | some slot => { s with nodes := (slot, n) :: s.nodes }
  | none => s

/-- The long form of a tag; an unknown handle is an error. -/
def longTag (s : Composer) (handle : String) (suffix : List UInt8) : Option (List UInt8) :=
  if handle.isEmpty then some suffix
  else (s.handles.find? (·.1 == handle)).map fun (_, start) => start ++ suffix

/-- The tag that bytes stand for. Bytes that encode no text are no tag of an application. -/
def tagOfBytes (bytes : List UInt8) : Option String :=
  match String.fromUTF8? ⟨bytes.toArray⟩ with
  | some tag => some tag
  | none =>
    if bytes.head? == some 0x21 then none
    else some (String.ofList (bytes.map fun b => Char.ofNat b.toNat))

/-- Reads the properties before a node: an anchor and a tag, in either order. -/
def properties (s : Composer) : Option (Properties × Composer) :=
  match s.head with
  | .anchor name =>
    let (s, slot) := s.advance.anchor name
    match s.head with
    | .tag handle suffix =>
      (s.longTag handle suffix).map fun tag => (⟨true, tagOfBytes tag, some slot⟩, s.advance)
    | _ => some (⟨true, none, some slot⟩, s)
  | .tag handle suffix =>
    match s.longTag handle suffix with
    | none => none
    | some tag =>
      let s := s.advance
      match s.head with
      | .anchor name =>
        let (s, slot) := s.advance.anchor name
        some (⟨true, tagOfBytes tag, some slot⟩, s)
      | _ => some (⟨true, tagOfBytes tag, none⟩, s)
  | _ => some (⟨false, none, none⟩, s)

def missing : Node := .scalar none "" true

/-- True for the tokens that end the value of a mapping entry in block context. -/
def endsBlockValue : Token → Bool
  | .key | .value | .blockEnd => true
  | _ => false

mutual

/-- Reads a node. Block collections are read where `block` allows them, and a sequence as far in as
its parent where `indentless` does. -/
def node : (fuel : Nat) → (block indentless : Bool) → Composer → Option (Node × Composer)
  | 0, _, _, _ => none
  | fuel + 1, block, indentless, s =>
    match s.head with
    | .alias name =>
      match s.anchors.find? (·.1 == name) with
      | some (_, id) => some (.alias id, s.advance)
      | none => none
    | _ =>
      match s.properties with
      | none => none
      | some (p, s) =>
        let finish (r : Option (Node × Composer)) : Option (Node × Composer) :=
          r.map fun (n, s) => (n, s.store p n)
        match s.head with
        | .scalar text plain =>
          finish (some (.scalar p.tag text plain, s.advance))
        | .flowSequenceStart =>
          finish ((flowSequence fuel true [] s.advance).map fun (items, s) =>
            (.sequence p.tag items, s))
        | .flowMappingStart =>
          finish ((flowMapping fuel true [] s.advance).map fun (entries, s) =>
            (.mapping p.tag entries, s))
        | t =>
          if indentless && t == .blockEntry then
            finish ((indentlessSequence fuel [] s).map fun (items, s) =>
              (.sequence p.tag items, s))
          else if block && t == .blockSequenceStart then
            finish ((blockSequence fuel [] s.advance).map fun (items, s) =>
              (.sequence p.tag items, s))
          else if block && t == .blockMappingStart then
            finish ((blockMapping fuel [] s.advance).map fun (entries, s) =>
              (.mapping p.tag entries, s))
          else if p.present then finish (some (.scalar p.tag "" true, s))
          else none

/-- Reads the items of a block sequence and its end. -/
def blockSequence : (fuel : Nat) → List Node → Composer → Option (List Node × Composer)
  | 0, _, _ => none
  | fuel + 1, items, s =>
    match s.head with
    | .blockEntry =>
      let s := s.advance
      match s.head with
      | .blockEntry | .blockEnd => blockSequence fuel (missing :: items) s
      | _ =>
        match node fuel true false s with
        | some (n, s) => blockSequence fuel (n :: items) s
        | none => none
    | .blockEnd => some (items.reverse, s.advance)
    | _ => none

/-- Reads the items of a sequence that is no further in than its parent. -/
def indentlessSequence : (fuel : Nat) → List Node → Composer → Option (List Node × Composer)
  | 0, _, _ => none
  | fuel + 1, items, s =>
    match s.head with
    | .blockEntry =>
      let s := s.advance
      if s.head == .blockEntry || endsBlockValue s.head then
        indentlessSequence fuel (missing :: items) s
      else
        match node fuel true false s with
        | some (n, s) => indentlessSequence fuel (n :: items) s
        | none => none
    | _ => some (items.reverse, s)

/-- Reads the entries of a block mapping and its end. -/
def blockMapping :
    (fuel : Nat) → List (Node × Node) → Composer → Option (List (Node × Node) × Composer)
  | 0, _, _ => none
  | fuel + 1, entries, s =>
    match s.head with
    | .key =>
      let s := s.advance
      match (if endsBlockValue s.head then some (missing, s) else node fuel true true s) with
      | none => none
      | some (k, s) =>
        match s.head with
        | .value =>
          let s := s.advance
          match (if endsBlockValue s.head then some (missing, s) else node fuel true true s) with
          | none => none
          | some (v, s) => blockMapping fuel ((k, v) :: entries) s
        | _ => blockMapping fuel ((k, missing) :: entries) s
    | .blockEnd => some (entries.reverse, s.advance)
    | _ => none

/-- Reads the items of a flow sequence and its end. An item with a key is a mapping with one
entry. -/
def flowSequence :
    (fuel : Nat) → (first : Bool) → List Node → Composer → Option (List Node × Composer)
  | 0, _, _, _ => none
  | fuel + 1, first, items, s =>
    match s.head with
    | .flowSequenceEnd => some (items.reverse, s.advance)
    | t =>
      if !first && t != .flowEntry then none
      else
        let s := if first then s else s.advance
        match s.head with
        | .key =>
          match flowPair fuel s.advance with
          | some (k, v, s) => flowSequence fuel false (.mapping none [(k, v)] :: items) s
          | none => none
        | .flowSequenceEnd => some (items.reverse, s.advance)
        | _ =>
          match node fuel false false s with
          | some (n, s) => flowSequence fuel false (n :: items) s
          | none => none

/-- Reads the key and the value of an item of a flow sequence. Where the key is missing, the token
that shows this is passed over. -/
def flowPair : (fuel : Nat) → Composer → Option (Node × Node × Composer)
  | 0, _ => none
  | fuel + 1, s =>
    let key :=
      match s.head with
      | .value | .flowEntry | .flowSequenceEnd => some (missing, s.advance)
      | _ => node fuel false false s
    match key with
    | none => none
    | some (k, s) =>
      match s.head with
      | .value =>
        let s := s.advance
        match s.head with
        | .flowEntry | .flowSequenceEnd => some (k, missing, s)
        | _ =>
          match node fuel false false s with
          | some (v, s) => some (k, v, s)
          | none => none
      | _ => some (k, missing, s)

/-- Reads the entries of a flow mapping and its end. -/
def flowMapping :
    (fuel : Nat) → (first : Bool) → List (Node × Node) → Composer →
      Option (List (Node × Node) × Composer)
  | 0, _, _, _ => none
  | fuel + 1, first, entries, s =>
    match s.head with
    | .flowMappingEnd => some (entries.reverse, s.advance)
    | t =>
      if !first && t != .flowEntry then none
      else
        let s := if first then s else s.advance
        match s.head with
        | .key =>
          let s := s.advance
          let key :=
            match s.head with
            | .value | .flowEntry | .flowMappingEnd => some (missing, s)
            | _ => node fuel false false s
          match key with
          | none => none
          | some (k, s) =>
            match s.head with
            | .value =>
              let s := s.advance
              match s.head with
              | .flowEntry | .flowMappingEnd => flowMapping fuel false ((k, missing) :: entries) s
              | _ =>
                match node fuel false false s with
                | some (v, s) => flowMapping fuel false ((k, v) :: entries) s
                | none => none
            | _ => flowMapping fuel false ((k, missing) :: entries) s
        | .flowMappingEnd => some (entries.reverse, s.advance)
        | _ =>
          match node fuel false false s with
          | some (k, s) => flowMapping fuel false ((k, missing) :: entries) s
          | none => none

end

/-- Passes over the ends of earlier documents. -/
def skipEnds : List Token → List Token
  | .documentEnd :: rest => skipEnds rest
  | tokens => tokens

/-- The handles that every document knows. -/
def standardHandles : List (String × List UInt8) :=
  [("!", "!".toUTF8.toList), ("!!", "tag:yaml.org,2002:".toUTF8.toList)]

/-- Reads the directives of a document. A version other than 1.1 and 1.2, a second version and a
handle that is given twice are errors. -/
def directives (versioned : Bool) (handles : List (String × List UInt8)) :
    List Token → Option (List (String × List UInt8) × List Token)
  | .version major minor :: rest =>
    if versioned || major != 1 || !(minor == 1 || minor == 2) then none
    else directives true handles rest
  | .tagDirective handle start :: rest =>
    if handles.any (·.1 == handle) then none
    else directives versioned (handles ++ [(handle, start)]) rest
  | tokens => some (handles, tokens)

/-- True for the tokens before which a document has no content. -/
def endsContent : Token → Bool
  | .version _ _ | .tagDirective _ _ | .documentStart | .documentEnd | .streamEnd => true
  | _ => false

/-- The nodes behind the anchors of a finished document. -/
def anchored (s : Composer) : List (Nat × Node) :=
  s.slots.filterMap fun (id, slot) => (s.nodes.find? (·.1 == slot)).map fun (_, n) => (id, n)

/-- Reads the root node of a document. -/
def rootNode (handles : List (String × List UInt8)) (tokens : List Token) :
    Option (Document × List Token) :=
  (node (4 * tokens.length + 4) true false ⟨tokens, handles, [], [], [], 0⟩).map fun (n, s) =>
    (⟨some n, s.anchored⟩, s.tokens)

/-- Reads a document that starts with a marker, which may come after directives. Its content may be
missing. -/
def marked (tokens : List Token) : Option (Document × List Token) :=
  match directives false [] tokens with
  | some (own, .documentStart :: rest) =>
    let handles := own ++ standardHandles.filter fun h => !own.any (·.1 == h.1)
    match rest with
    | t :: _ => if endsContent t then some (⟨some missing, []⟩, rest) else rootNode handles rest
    | [] => none
  | _ => none

end Composer

/-- The only document of a text; a text without one has an empty document, and a second one is an
error. -/
def Document.parse? (text : String) : Option Document :=
  match tokens? text with
  | none => none
  | some [.streamEnd] => some ⟨none, []⟩
  | some tokens =>
    let read :=
      match tokens with
      | .version _ _ :: _ | .tagDirective _ _ :: _ | .documentStart :: _ => Composer.marked tokens
      | _ => Composer.rootNode Composer.standardHandles tokens
    match read with
    | some (document, rest) =>
      if Composer.skipEnds rest == [.streamEnd] then some document else none
    | none => none

end StackExport.Yaml
