import GraphLayer.Record.Node
import GraphLayer.Yaml.Token

/-!
# Reading YAML

* `Yaml.read?`, the tree of a text that holds at most one document; a text without one is an
  empty scalar.

Each reader takes a part off the front of some tokens.  Anchors are kept with the trees that
they stand for.
-/

namespace GraphLayer.Yaml

/-- The trees of anchors, the last one first. -/
abbrev Anchors := List (List Char × Node)

/-- What handles stand for. -/
abbrev Handles := List (List Char × List Char)

/-- The handles that need no directive. -/
def commonHandles : Handles := [(['!'], ['!']), (['!', '!'], "tag:yaml.org,2002:".toList)]

/-- What a reader leaves: the tokens behind the part and the anchors known by then. -/
structure Rest where
  tokens : List Token
  anchors : Anchors := []
  handles : Handles := commonHandles

/-! ### Properties -/

/-- The properties of a node. -/
structure Properties where
  anchor : Option (List Char) := none
  /-- The tag, whose handle has been replaced by what it stands for. -/
  tag : Option (List Char) := none

/-- The tag of a handle and a suffix; a tag between angle brackets has no handle. -/
def fullTag? (handles : Handles) (handle suffix : List Char) : Option (List Char) :=
  if handle.isEmpty then some suffix else (handles.lookup handle).map (· ++ suffix)

/-- The properties at the front, in any order, and the tokens behind them. -/
def properties? (handles : Handles) : List Token → Option (Properties × List Token)
  | .anchor a :: .tag h t :: r => (fullTag? handles h t).map fun t => (⟨some a, some t⟩, r)
  | .tag h t :: .anchor a :: r => (fullTag? handles h t).map fun t => (⟨some a, some t⟩, r)
  | .anchor a :: r => some (⟨some a, none⟩, r)
  | .tag h t :: r => (fullTag? handles h t).map fun t => (⟨none, some t⟩, r)
  | r => some ({}, r)

/-- Whether there is any property. -/
def Properties.any (p : Properties) : Bool := p.anchor.isSome || p.tag.isSome

/-- The tree of a scalar without quotes. -/
def Properties.plain (p : Properties) (text : List Char) : Node :=
  match p.tag with
  | none => .plain (String.ofList text)
  | some t => .tagged (t == "tag:yaml.org,2002:null".toList) (String.ofList text)

/-- The tree of nothing at all. -/
def absent : Node := .plain ""

/-! ### Nodes -/

/-- Where a node stands. -/
structure Context where
  /-- Whether collections may begin by indentation. -/
  block : Bool
  /-- Whether a dash without further indentation begins a list. -/
  dashes : Bool

/-- Tokens before which the node of a dash is left out. -/
def endsEntry : List Token → Bool
  | .entry :: _ => true
  | .blockEnd :: _ => true
  | _ => false

/-- Tokens before which a node in a mapping is left out. -/
def endsPart : List Token → Bool
  | .key :: _ => true
  | .value :: _ => true
  | .blockEnd :: _ => true
  | _ => false

/-- Tokens before which a value between brackets is left out. -/
def endsFlow (close : Token) : List Token → Bool
  | .comma :: _ => true
  | t :: _ => t == close
  | [] => false

/-- Remember a tree under its anchor. -/
def remember (a : Option (List Char)) (n : Node) (anchors : Anchors) : Anchors :=
  match a with
  | some a => (a, n) :: anchors
  | none => anchors

mutual

/-- A node. -/
def node? : Nat → Context → Rest → Option (Node × Rest)
  | 0, _, _ => none
  | fuel + 1, ctx, s =>
    match s.tokens with
    | .alias a :: r => (s.anchors.lookup a).map fun n => (n, { s with tokens := r })
    | ts => do
      let (p, ts) ← properties? s.handles ts
      let (n, r) ← content? fuel ctx p { s with tokens := ts }
      return (n, { r with anchors := remember p.anchor n r.anchors })

/-- A node behind its properties; one that has properties may be left out. -/
def content? : Nat → Context → Properties → Rest → Option (Node × Rest)
  | 0, _, _, _ => none
  | fuel + 1, ctx, p, s =>
    match s.tokens with
    | .plain t :: r => some (p.plain t, { s with tokens := r })
    | .quoted t :: r => some (.text (String.ofList t), { s with tokens := r })
    | .openList :: r => flowList? fuel true [] { s with tokens := r }
    | .openRecord :: r => flowRecord? fuel true [] { s with tokens := r }
    | .entry :: _ =>
      if ctx.dashes then dashes? fuel [] s
      else if p.any then some (p.plain [], s)
      else none
    | .blockSequence :: r =>
      if ctx.block then blockList? fuel [] { s with tokens := r }
      else if p.any then some (p.plain [], s)
      else none
    | .blockMapping :: r =>
      if ctx.block then blockRecord? fuel [] { s with tokens := r }
      else if p.any then some (p.plain [], s)
      else none
    | _ => if p.any then some (p.plain [], s) else none

/-- The entries of a list by indentation. -/
def blockList? : Nat → List Node → Rest → Option (Node × Rest)
  | 0, _, _ => none
  | fuel + 1, xs, s =>
    match s.tokens with
    | .blockEnd :: r => some (.list .never xs.reverse, { s with tokens := r })
    | .entry :: r =>
      if endsEntry r then blockList? fuel (absent :: xs) { s with tokens := r }
      else do
        let (x, s) ← node? fuel ⟨true, false⟩ { s with tokens := r }
        blockList? fuel (x :: xs) s
    | _ => none

/-- The entries of a list in a mapping without further indentation. -/
def dashes? : Nat → List Node → Rest → Option (Node × Rest)
  | 0, _, _ => none
  | fuel + 1, xs, s =>
    match s.tokens with
    | .entry :: r =>
      if endsEntry r || endsPart r then dashes? fuel (absent :: xs) { s with tokens := r }
      else do
        let (x, s) ← node? fuel ⟨true, false⟩ { s with tokens := r }
        dashes? fuel (x :: xs) s
    | _ => some (.list .never xs.reverse, s)

/-- The pairs of a mapping by indentation. -/
def blockRecord? : Nat → List (Node × Node) → Rest → Option (Node × Rest)
  | 0, _, _ => none
  | fuel + 1, fs, s =>
    match s.tokens with
    | .blockEnd :: r => some (.record fs.reverse, { s with tokens := r })
    | .key :: r => do
      let (k, s) ←
        if endsPart r then some (absent, { s with tokens := r })
        else node? fuel ⟨true, true⟩ { s with tokens := r }
      let (v, s) ← match s.tokens with
        | .value :: r =>
          if endsPart r then some (absent, { s with tokens := r })
          else node? fuel ⟨true, true⟩ { s with tokens := r }
        | _ => some (absent, s)
      blockRecord? fuel ((k, v) :: fs) s
    | _ => none

/-- The value behind a key between brackets. -/
def flowValue? : Nat → Token → Rest → Option (Node × Rest)
  | 0, _, _ => none
  | fuel + 1, close, s =>
    match s.tokens with
    | .value :: r =>
      if endsFlow close r then some (absent, { s with tokens := r })
      else node? fuel ⟨false, false⟩ { s with tokens := r }
    | _ => some (absent, s)

/-- The key behind its mark between brackets. -/
def flowKey? : Nat → Token → Rest → Option (Node × Rest)
  | 0, _, _ => none
  | fuel + 1, close, s =>
    match s.tokens with
    | .value :: _ => some (absent, s)
    | ts => if endsFlow close ts then some (absent, s) else node? fuel ⟨false, false⟩ s

/-- The items of a list between brackets; a pair is a record of its own. -/
def flowList? : Nat → Bool → List Node → Rest → Option (Node × Rest)
  | 0, _, _, _ => none
  | fuel + 1, first, xs, s => do
    let s ← match s.tokens with
      | .closeList :: _ => some s
      | .comma :: r => if first then none else some { s with tokens := r }
      | _ => if first then some s else none
    match s.tokens with
    | .closeList :: r => return (.list .never xs.reverse, { s with tokens := r })
    | .key :: r =>
      let (k, s) ← flowKey? fuel .closeList { s with tokens := r }
      let (v, s) ← flowValue? fuel .closeList s
      flowList? fuel false (.record [(k, v)] :: xs) s
    | _ =>
      let (x, s) ← node? fuel ⟨false, false⟩ s
      flowList? fuel false (x :: xs) s

/-- The pairs of a record between brackets. -/
def flowRecord? : Nat → Bool → List (Node × Node) → Rest → Option (Node × Rest)
  | 0, _, _, _ => none
  | fuel + 1, first, fs, s => do
    let s ← match s.tokens with
      | .closeRecord :: _ => some s
      | .comma :: r => if first then none else some { s with tokens := r }
      | _ => if first then some s else none
    match s.tokens with
    | .closeRecord :: r => return (.record fs.reverse, { s with tokens := r })
    | .key :: r =>
      let (k, s) ← flowKey? fuel .closeRecord { s with tokens := r }
      let (v, s) ← flowValue? fuel .closeRecord s
      flowRecord? fuel false ((k, v) :: fs) s
    | _ =>
      let (k, s) ← node? fuel ⟨false, false⟩ s
      flowRecord? fuel false ((k, absent) :: fs) s

end

/-! ### Documents -/

/-- Drop the marks of ended documents. -/
def afterEnds : List Token → List Token
  | .documentEnd :: r => afterEnds r
  | r => r

/-- The handles of some directives and the tokens behind them.  The version may be told once,
and so may what a handle stands for. -/
def directives? : Bool → Handles → List Token → Option (Handles × List Token)
  | told, handles, .version major minor :: r =>
    if told ∨ major ≠ 1 ∨ (minor ≠ 1 ∧ minor ≠ 2) then none else directives? true handles r
  | told, handles, .handle name start :: r =>
    if (handles.lookup name).isSome then none
    else directives? told ((name, start) :: handles) r
  | _, handles, r => some (handles ++ commonHandles, r)

/-- Tokens before which a document is empty. -/
def endsDocument : List Token → Bool
  | [] => true
  | .version _ _ :: _ => true
  | .handle _ _ :: _ => true
  | .documentStart :: _ => true
  | .documentEnd :: _ => true
  | _ => false

/-- The tree at the front and nothing behind it but the marks of an ended document. -/
def only? (handles : Handles) (ts : List Token) : Option Node := do
  let (n, s) ← node? (2 * ts.length + 2) ⟨true, false⟩ { tokens := ts, handles }
  if (afterEnds s.tokens).isEmpty then return n else none

/-- The tree of a document behind its mark. -/
def marked? (handles : Handles) (ts : List Token) : Option Node :=
  if endsDocument ts then (if (afterEnds ts).isEmpty then some absent else none)
  else only? handles ts

/-- The tree of a text with at most one document. -/
def read? (s : String) : Option Node := do
  let ts ← tokens? s
  let (handles, behind) ← directives? false [] ts
  match behind with
  | .documentStart :: r => marked? handles r
  | [] => if ts.isEmpty then return absent else none
  | r => if behind.length = ts.length then only? handles r else none

end GraphLayer.Yaml
