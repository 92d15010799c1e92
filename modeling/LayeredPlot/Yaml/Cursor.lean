/-!
# Places in the text of a document

A document consists of printing characters, tabs and line breaks.  Structure is
told from the columns at which words start, so a cursor keeps the line and the
column of the text that is left to read.
-/

namespace LayeredPlot
namespace Yaml

/-! ## Characters -/

def nextLine : Char := Char.ofNat 0x85

def lineSeparator : Char := Char.ofNat 0x2028

def paragraphSeparator : Char := Char.ofNat 0x2029

def byteOrderMark : Char := Char.ofNat 0xfeff

/-- Whether a character can stand in a document.  Controls cannot, apart from tabs and line
breaks. -/
def isAllowed (c : Char) : Bool :=
  let n := c.toNat
  n = 0x9 || n = 0xa || n = 0xd || n = 0x85 || (0x20 ≤ n && n ≤ 0x7e)
    || (0xa0 ≤ n && n ≤ 0xfffd) || 0x10000 ≤ n

/-- A text in which all line breaks but the two separators are line feeds. -/
def unifyBreaks : List Char -> List Char
  | [] => []
  | '\r' :: '\n' :: cs => '\n' :: unifyBreaks cs
  | c :: cs => (if c = '\r' || c = nextLine then '\n' else c) :: unifyBreaks cs

def isBreak (c : Char) : Bool :=
  c = '\n' || c = lineSeparator || c = paragraphSeparator

def isBlank (c : Char) : Bool :=
  c = ' ' || c = '\t'

def endsWord : List Char -> Bool
  | [] => true
  | c :: _ => isBlank c || isBreak c

def isNameChar (c : Char) : Bool :=
  c.isAlphanum || c = '_' || c = '-'

/-! ## Cursors -/

/-- The text that is left to read, and the place in the document where it starts. -/
structure Cursor where
  rest : List Char
  line : Nat
  column : Nat
  deriving DecidableEq, Repr

namespace Cursor

def ofText (cs : List Char) : Cursor where
  rest := cs
  line := 0
  column := 0

def skip (n : Nat) (c : Cursor) : Cursor :=
  { c with rest := c.rest.drop n, column := c.column + n }

def skipBreak (c : Cursor) : Cursor where
  rest := c.rest.drop 1
  line := c.line + 1
  column := 0

def skipWhile (p : Char -> Bool) (c : Cursor) : Cursor :=
  c.skip (c.rest.takeWhile p).length

def skipTo (rest : List Char) (c : Cursor) : Cursor :=
  { c with rest := rest, column := c.column + (c.rest.length - rest.length) }

def skipComment (c : Cursor) : Cursor :=
  match c.rest with
  | '#' :: _ => c.skipWhile fun d => !isBreak d
  | _ => c

def finishLine (c : Cursor) : Option Cursor :=
  let c := (c.skipWhile isBlank).skipComment
  match c.rest with
  | [] => some c
  | d :: _ => if isBreak d then some c.skipBreak else none

def isMark (mark : Char) (c : Cursor) : Bool :=
  match c.rest with
  | x :: y :: z :: r => c.column = 0 && x = mark && y = mark && z = mark && endsWord r
  | _ => false

def isDocumentMark (c : Cursor) : Bool :=
  c.isMark '-' || c.isMark '.'

end Cursor
end Yaml
end LayeredPlot
