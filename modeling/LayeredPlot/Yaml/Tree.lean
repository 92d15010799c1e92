import LayeredPlot.Yaml.Layout
import LayeredPlot.Yaml.Node

/-!
# Trees of YAML documents

The tokens of a document are read into a tree.  A text without layout, a text
whose tokens do not make up one tree and a text of several documents have none.
-/

namespace LayeredPlot
namespace Yaml

abbrev Handles := List (List Char × List Char)

namespace Handles

def standard : Handles :=
  [(['!'], ['!']), (['!', '!'], Node.coreTag)]

def tag? (hs : Handles) (handle suffix : List Char) : Option (List Char) :=
  if handle.isEmpty then some suffix else (hs.lookup handle).map fun stem => stem ++ suffix

end Handles

structure Properties where
  anchor : Option Nat
  tag : Option (List Char)
  deriving DecidableEq, Repr

namespace Properties

def read (hs : Handles) (ts : List Token) : Option (Properties × List Token) :=
  match ts with
  | .anchor k :: .tag h s :: r => (hs.tag? h s).map fun t => (⟨some k, some t⟩, r)
  | .tag h s :: .anchor k :: r => (hs.tag? h s).map fun t => (⟨some k, some t⟩, r)
  | .anchor k :: r => some (⟨some k, none⟩, r)
  | .tag h s :: r => (hs.tag? h s).map fun t => (⟨none, some t⟩, r)
  | r => some (⟨none, none⟩, r)

def isEmpty (p : Properties) : Bool :=
  p.anchor.isNone && p.tag.isNone

def scalarTag (p : Properties) : Option (List Char) :=
  if p.tag = some ['!'] then none else p.tag

end Properties

namespace Tree

/-- Whether a node that is left blank stands before tokens in a mapping laid out by indentation. -/
def endsInBlock : List Token -> Bool
  | .key :: _ => true
  | .value :: _ => true
  | .blockEnd :: _ => true
  | _ => false

def endsItem : List Token -> Bool
  | .item :: _ => true
  | .blockEnd :: _ => true
  | _ => false

def endsInBrackets (closing : Token) : List Token -> Bool
  | t :: _ => t = .comma || t = closing
  | [] => false

def endsKeyInBrackets (closing : Token) (ts : List Token) : Bool :=
  ts.head? = some .value || endsInBrackets closing ts

def afterComma (first : Bool) (ts : List Token) : Option (List Token) :=
  if first then some ts
  else
    match ts with
    | .comma :: r => some r
    | _ => none

mutual

/-- The node that tokens start with, and the tokens after it.  The first argument bounds the depth
and the length of lists and mappings together.  Lists and mappings laid out by indentation stand
only outside of brackets (`laidOut`), and the items of a list need not be indented behind a key or
its value (`flush`). -/
def node (hs : Handles) : Nat -> Bool -> Bool -> List Token -> Option (Node × List Token)
  | 0, _, _, _ => none
  | bound + 1, laidOut, flush, ts =>
      match ts with
      | .reference k :: r => some (.reference k, r)
      | ts => do
          let (p, ts) <- Properties.read hs ts
          let (n, r) <- content hs bound laidOut flush p ts
          pure (n.withAnchor p.anchor, r)

def content (hs : Handles) :
    Nat -> Bool -> Bool -> Properties -> List Token -> Option (Node × List Token)
  | 0, _, _, _, _ => none
  | bound + 1, laidOut, flush, p, ts =>
      match ts with
      | .scalar style text :: r => some (.scalar style p.scalarTag text, r)
      | .listStart :: r => (items hs bound true r).map fun (ns, r) => (.list ns, r)
      | .mapStart :: r => (entries hs bound true r).map fun (es, r) => (.map es, r)
      | ts =>
          match laidOut, flush, ts with
          | true, _, .blockListStart :: r =>
              (blockItems hs bound r).map fun (ns, r) => (.list ns, r)
          | true, _, .blockMapStart :: r =>
              (blockEntries hs bound r).map fun (es, r) => (.map es, r)
          | _, true, .item :: r =>
              (flushItems hs bound (.item :: r)).map fun (ns, r) => (.list ns, r)
          | _, _, ts => if p.isEmpty then none else some (.scalar .plain p.tag [], ts)

def blockItems (hs : Handles) : Nat -> List Token -> Option (List Node × List Token)
  | 0, _ => none
  | bound + 1, ts =>
      match ts with
      | .item :: r => do
          let (n, r) <- if endsItem r then some (.blank, r) else node hs bound true false r
          let (ns, r) <- blockItems hs bound r
          pure (n :: ns, r)
      | .blockEnd :: r => some ([], r)
      | _ => none

def flushItems (hs : Handles) : Nat -> List Token -> Option (List Node × List Token)
  | 0, _ => none
  | bound + 1, ts =>
      match ts with
      | .item :: r => do
          let (n, r) <-
            if endsItem r || endsInBlock r then some (.blank, r) else node hs bound true false r
          let (ns, r) <- flushItems hs bound r
          pure (n :: ns, r)
      | ts => some ([], ts)

def blockEntries (hs : Handles) : Nat -> List Token -> Option (List (Node × Node) × List Token)
  | 0, _ => none
  | bound + 1, ts =>
      match ts with
      | .key :: r => do
          let (k, r) <- if endsInBlock r then some (.blank, r) else node hs bound true true r
          let (v, r) <- match r with
            | .value :: r =>
                if endsInBlock r then some (.blank, r) else node hs bound true true r
            | r => some (.blank, r)
          let (es, r) <- blockEntries hs bound r
          pure ((k, v) :: es, r)
      | .blockEnd :: r => some ([], r)
      | _ => none

/-- The items of a list in brackets.  A key among them makes up a mapping of one entry; where such a
key is left blank, the token behind it does not count. -/
def items (hs : Handles) : Nat -> Bool -> List Token -> Option (List Node × List Token)
  | 0, _, _ => none
  | _ + 1, _, .listEnd :: r => some ([], r)
  | bound + 1, first, ts => do
      match <- afterComma first ts with
      | .listEnd :: r => pure ([], r)
      | .key :: r =>
          let (k, r) <-
            if endsKeyInBrackets .listEnd r then some (.blank, r.drop 1)
            else node hs bound false false r
          let (v, r) <- valueInBrackets hs bound .listEnd r
          let (ns, r) <- items hs bound false r
          pure (.map [(k, v)] :: ns, r)
      | r =>
          let (n, r) <- node hs bound false false r
          let (ns, r) <- items hs bound false r
          pure (n :: ns, r)

def entries (hs : Handles) :
    Nat -> Bool -> List Token -> Option (List (Node × Node) × List Token)
  | 0, _, _ => none
  | _ + 1, _, .mapEnd :: r => some ([], r)
  | bound + 1, first, ts => do
      match <- afterComma first ts with
      | .mapEnd :: r => pure ([], r)
      | .key :: r =>
          let (k, r) <-
            if endsKeyInBrackets .mapEnd r then some (.blank, r)
            else node hs bound false false r
          let (v, r) <- valueInBrackets hs bound .mapEnd r
          let (es, r) <- entries hs bound false r
          pure ((k, v) :: es, r)
      | r =>
          let (k, r) <- node hs bound false false r
          let (es, r) <- entries hs bound false r
          pure ((k, .blank) :: es, r)

def valueInBrackets (hs : Handles) :
    Nat -> Token -> List Token -> Option (Node × List Token)
  | 0, _, _ => none
  | bound + 1, closing, ts =>
      match ts with
      | .value :: r =>
          if endsInBrackets closing r then some (.blank, r) else node hs bound false false r
      | r => some (.blank, r)

end

end Tree

/-! ## Documents -/

/-- Directives before a document say at most once what its version is and what each handle of a tag
stands for. -/
structure Directives where
  versioned : Bool
  handles : Handles

namespace Directives

def empty : Directives where
  versioned := false
  handles := []

def isKnownVersion (major minor : Nat) : Bool :=
  major = 1 && (minor = 1 || minor = 2)

def read (d : Directives) : List Token -> Option (Directives × List Token)
  | .version major minor :: ts =>
      if d.versioned || !isKnownVersion major minor then none
      else read { d with versioned := true } ts
  | .tagHandle h stem :: ts =>
      if (d.handles.lookup h).isSome then none
      else read { d with handles := (h, stem) :: d.handles } ts
  | .documentStart :: ts => some (d, ts)
  | _ => none

def allHandles (d : Directives) : Handles :=
  d.handles ++ .standard

end Directives

namespace Tree

def isOutside : List Token -> Bool
  | [] => true
  | .version _ _ :: _ => true
  | .tagHandle _ _ :: _ => true
  | .documentStart :: _ => true
  | .documentEnd :: _ => true
  | _ => false

def ofRoot? (hs : Handles) (ts : List Token) : Option Node := do
  let (n, r) <- node hs (3 * (ts.length + 1)) true false ts
  if r.all (· = .documentEnd) then pure n else none

def ofTokens? (ts : List Token) : Option Node :=
  match ts with
  | [] => some .blank
  | .documentEnd :: _ => none
  | t :: ts =>
      if isOutside (t :: ts) then do
        let (d, ts) <- Directives.empty.read (t :: ts)
        if isOutside ts then
          if ts.all (· = .documentEnd) then pure .blank else none
        else ofRoot? d.allHandles ts
      else ofRoot? .standard (t :: ts)

end Tree

def Node.ofDocument? (s : String) : Option Node :=
  tokens? s.toList >>= Tree.ofTokens?

end Yaml
end LayeredPlot
