import LayeredPlot.Yaml.Scalar.Block
import LayeredPlot.Yaml.Scalar.Plain
import LayeredPlot.Yaml.Scalar.Quoted
import LayeredPlot.Yaml.Tag

/-!
# The layout of documents

A document is read from left to right into tokens.  Outside of brackets, a word
further to the right than the lists and mappings around it can start a list or a mapping
of its own, and a word further to the left ends those that start to its right.
That a word is a key is only told by the colon behind it, which has to follow on the
same line; the token for the key then goes in before the word.
-/

namespace LayeredPlot
namespace Yaml

/-- A place where a key may have started. -/
structure KeyPlace where
  text : List Char
  line : Nat
  column : Nat
  required : Bool
  before : List Token
  deriving DecidableEq, Repr

structure Layout where
  /-- More than the number of characters in the document, which bounds the number of parts of any
  of its tokens. -/
  size : Nat
  cursor : Cursor
  /-- The columns of the lists and mappings laid out around the cursor, the innermost first. -/
  indents : List Nat
  candidate : Option KeyPlace
  outer : List (Option KeyPlace)
  keyAllowed : Bool
  names : List (List Char × Nat)
  tokens : List Token
  deriving DecidableEq, Repr

namespace KeyPlace

def lengthBound : Nat := 1024

def octets (cs : List Char) : Nat :=
  cs.foldl (fun n c => n + c.utf8Size) 0

/-- Whether a colon at a cursor can belong to a key that starts here.  Every character has an
octet, so there are no octets to count if the columns are too far apart. -/
def reaches (k : KeyPlace) (c : Cursor) : Bool :=
  k.line = c.line && c.column ≤ k.column + lengthBound
    && octets (k.text.take (c.column - k.column)) ≤ lengthBound

end KeyPlace

namespace Layout

def ofText (cs : List Char) : Layout where
  size := cs.length + 1
  cursor := .ofText cs
  indents := []
  candidate := none
  outer := []
  keyAllowed := true
  names := []
  tokens := []

def inBrackets (s : Layout) : Bool :=
  !s.outer.isEmpty

def least (s : Layout) : Nat :=
  match s.indents with
  | [] => 0
  | i :: _ => i + 1

def emitTo (c : Cursor) (t : Token) (s : Layout) : Layout :=
  { s with cursor := c, tokens := t :: s.tokens }

def emitMark (t : Token) (s : Layout) : Layout :=
  s.emitTo (s.cursor.skip 1) t

/-! ## Between tokens -/

/-- Goes over blanks, comments and line breaks.  A tab cannot stand where a key can start.
The arguments before the text tell if the cursor is in brackets, if a key is allowed and if the
cursor is in a comment. -/
def skipBlanks (brackets : Bool) : Bool -> Bool -> Nat -> Nat -> List Char -> Bool × Cursor
  | keyAllowed, _, line, column, [] =>
      (keyAllowed, { rest := [], line := line, column := column })
  | keyAllowed, comment, line, column, c :: cs =>
      if isBreak c then
        skipBlanks brackets (keyAllowed || !brackets) false (line + 1) 0 cs
      else if comment || c = ' ' || (c = '\t' && (brackets || !keyAllowed))
          || (c = byteOrderMark && column = 0) then
        skipBlanks brackets keyAllowed comment line (column + 1) cs
      else if c = '#' then skipBlanks brackets keyAllowed true line (column + 1) cs
      else (keyAllowed, { rest := c :: cs, line := line, column := column })

def closeBlocks (column : Nat) : List Nat -> List Token -> List Nat × List Token
  | [], ts => ([], ts)
  | i :: is, ts => if column < i then closeBlocks column is (.blockEnd :: ts) else (i :: is, ts)

def closeToCursor (s : Layout) : Layout :=
  if s.inBrackets then s
  else
    let (indents, tokens) := closeBlocks s.cursor.column s.indents s.tokens
    { s with indents := indents, tokens := tokens }

def closeAll (s : Layout) : Layout :=
  if s.inBrackets then s
  else { s with indents := [], tokens := s.indents.map (fun _ => .blockEnd) ++ s.tokens }

/-- Gives up the keys that the cursor is too far away from.  A required key cannot be given up. -/
def giveUpKeys (s : Layout) : Option Layout :=
  let given (k : Option KeyPlace) : Bool := k.all fun k => !k.required || k.reaches s.cursor
  if (s.candidate :: s.outer).all given then
    some { s with candidate := s.candidate.filter fun k => k.reaches s.cursor }
  else none

def toToken (s : Layout) : Option Layout :=
  let (keyAllowed, c) :=
    skipBlanks s.inBrackets s.keyAllowed false s.cursor.line s.cursor.column s.cursor.rest
  closeToCursor <$> giveUpKeys { s with cursor := c, keyAllowed := keyAllowed }

/-! ## Keys -/

def dropKey (s : Layout) : Option Layout :=
  if s.candidate.any fun k => k.required then none else some { s with candidate := none }

def noteKey (s : Layout) : Option Layout :=
  if s.keyAllowed then do
    let s <- s.dropKey
    let k : KeyPlace :=
      { text := s.cursor.rest, line := s.cursor.line, column := s.cursor.column,
        required := !s.inBrackets && s.indents.head? = some s.cursor.column, before := s.tokens }
    pure { s with candidate := some k }
  else some s

def startsBlock (column : Nat) (s : Layout) : Bool :=
  !s.inBrackets && s.least ≤ column

def openBlock (t : Token) (s : Layout) : Layout :=
  if s.startsBlock s.cursor.column then
    { s with indents := s.cursor.column :: s.indents, tokens := t :: s.tokens }
  else s

/-- A colon behind a key.  The token for the key, and for the start of the mapping if it is the
first one, go in before the key. -/
def valueOfKey (k : KeyPlace) (s : Layout) : Layout :=
  let later := s.tokens.take (s.tokens.length - k.before.length)
  let starts := s.startsBlock k.column
  let before := if starts then .blockMapStart :: k.before else k.before
  { s with
    cursor := s.cursor.skip 1
    indents := if starts then k.column :: s.indents else s.indents
    candidate := none
    keyAllowed := false
    tokens := .value :: (later ++ .key :: before) }

/-! ## Marks -/

def outside (s : Layout) : Option Layout :=
  (s.closeAll.dropKey).map fun s => { s with keyAllowed := false }

def documentMark (t : Token) (s : Layout) : Option Layout :=
  s.outside.map fun s => s.emitTo (s.cursor.skip 3) t

def directive (s : Layout) : Option Layout := do
  let s <- s.outside
  let (t, r) <- Directive.read s.cursor.rest
  let c <- (s.cursor.skipTo r).finishLine
  pure (s.emitTo c t)

def openBracket (t : Token) (s : Layout) : Option Layout :=
  s.noteKey.map fun s =>
    { s.emitMark t with candidate := none, outer := s.candidate :: s.outer, keyAllowed := true }

def closeBracket (t : Token) (s : Layout) : Option Layout :=
  s.dropKey.map fun s =>
    { s.emitMark t with
      candidate := s.outer.head?.join, outer := s.outer.drop 1, keyAllowed := false }

def comma (s : Layout) : Option Layout :=
  s.dropKey.map fun s => { s.emitMark .comma with keyAllowed := true }

def item (s : Layout) : Option Layout :=
  if s.inBrackets || s.keyAllowed then
    (s.openBlock .blockListStart).dropKey.map fun s =>
      { s.emitMark .item with keyAllowed := true }
  else none

def explicitKey (s : Layout) : Option Layout :=
  if s.inBrackets || s.keyAllowed then
    (s.openBlock .blockMapStart).dropKey.map fun s =>
      { s.emitMark .key with keyAllowed := !s.inBrackets }
  else none

def value (s : Layout) : Option Layout :=
  match s.candidate with
  | some k => some (s.valueOfKey k)
  | none =>
      if s.inBrackets || s.keyAllowed then
        let s := s.openBlock .blockMapStart
        some { s.emitMark .value with keyAllowed := !s.inBrackets }
      else none

/-! ## Words -/

def startWord (s : Layout) : Option Layout :=
  s.noteKey.map fun s => { s with keyAllowed := false }

/-- An anchor.  It takes the number of names before it, and another anchor of its name loses its
own. -/
def anchor (s : Layout) : Option Layout := do
  let s <- s.startWord
  let name <- anchorName? (s.cursor.rest.drop 1)
  let number := s.names.length
  let s := { s with names := (name, number) :: s.names.filter fun n => n.1 ≠ name }
  pure (s.emitTo (s.cursor.skip (name.length + 1)) (.anchor number))

def reference (s : Layout) : Option Layout := do
  let s <- s.startWord
  let name <- anchorName? (s.cursor.rest.drop 1)
  let number <- s.names.lookup name
  pure (s.emitTo (s.cursor.skip (name.length + 1)) (.reference number))

def tag (s : Layout) : Option Layout := do
  let s <- s.startWord
  let (t, r) <- Tag.read s.cursor.rest
  if Tag.isOver s.inBrackets r then pure (s.emitTo (s.cursor.skipTo r) t) else none

def quoted (mark : Char) (s : Layout) : Option Layout := do
  let s <- s.startWord
  let (text, c) <- Quoted.read mark s.size s.cursor
  pure (s.emitTo c (.scalar .quoted text))

def plain (s : Layout) : Option Layout := do
  let s <- s.startWord
  let (text, crosses, c) <- Plain.read s.inBrackets s.least s.size s.cursor
  pure { s.emitTo c (.scalar .plain text) with keyAllowed := crosses }

def block (style : Style) (s : Layout) : Option Layout := do
  let s <- s.dropKey
  let (text, c) <- Block.read (style = .folded) s.least s.size s.cursor
  pure { s.emitTo c (.scalar style text) with keyAllowed := true }

def isReserved (c : Char) : Bool :=
  c ∈ ['\t', '|', '>', '%', '@', Char.ofNat 96]

/-! ## Documents -/

def readToken (s : Layout) (c : Char) (cs : List Char) : Option Layout :=
  if s.cursor.column = 0 && c = '%' then s.directive
  else if s.cursor.isMark '-' then s.documentMark .documentStart
  else if s.cursor.isMark '.' then s.documentMark .documentEnd
  else if c = '[' then s.openBracket .listStart
  else if c = '{' then s.openBracket .mapStart
  else if c = ']' then s.closeBracket .listEnd
  else if c = '}' then s.closeBracket .mapEnd
  else if c = ',' then s.comma
  else if c = '-' && endsWord cs then s.item
  else if c = '?' && (s.inBrackets || endsWord cs) then s.explicitKey
  else if c = ':' && (s.inBrackets || endsWord cs) then s.value
  else if c = '*' then s.reference
  else if c = '&' then s.anchor
  else if c = '!' then s.tag
  else if c = '|' && !s.inBrackets then s.block .literal
  else if c = '>' && !s.inBrackets then s.block .folded
  else if c = '\'' || c = '"' then s.quoted c
  else if isReserved c then none
  else s.plain

/-- The tokens of a document.  The first argument bounds the number of those left to read. -/
def readTokens : Nat -> Layout -> Option (List Token)
  | 0, _ => none
  | bound + 1, s => do
      let s <- s.toToken
      match s.cursor.rest with
      | [] => s.closeAll.dropKey.map fun s => s.tokens.reverse
      | c :: cs => readTokens bound (<- s.readToken c cs)

end Layout

def tokens? (cs : List Char) : Option (List Token) :=
  if cs.all isAllowed then
    let s := Layout.ofText (unifyBreaks cs)
    Layout.readTokens s.size s
  else none

end Yaml
end LayeredPlot
