import LayeredPlot.Yaml.Cursor

/-!
# Scalars laid out as blocks

The lines of a block are indented alike, which is either announced or told from
the first of them.  A literal block keeps its line breaks, a folded one joins lines
that start with a word.  What is kept of the line breaks at the end is announced, too.
-/

namespace LayeredPlot
namespace Yaml
namespace Block

inductive Ending
  | strip
  | clip
  | keep
  deriving DecidableEq, Repr

structure Header where
  ending : Ending
  increment : Option Nat
  deriving DecidableEq, Repr

def ending? : Char -> Option Ending
  | '+' => some .keep
  | '-' => some .strip
  | _ => none

def increment : List Char -> Option (Option Nat × List Char)
  | [] => some (none, [])
  | c :: cs =>
      if c = '0' then none
      else if c.isDigit then some (some (c.toNat - '0'.toNat), cs)
      else some (none, c :: cs)

def header (cs : List Char) : Option (Header × List Char) :=
  match cs.head? >>= ending? with
  | some e => (increment (cs.drop 1)).map fun (n, r) => ({ ending := e, increment := n }, r)
  | none => do
      let (n, r) <- increment cs
      match n, r.head? >>= ending? with
      | some n, some e => pure ({ ending := e, increment := some n }, r.drop 1)
      | n, _ => pure ({ ending := .clip, increment := n }, r)

/-- The line breaks before the next line with a word, the greatest column that the indentation
reaches on the way, and the place behind the indentation.  While the indentation is not known,
it is taken to go on as far as there are spaces. -/
def indentation (indent : Option Nat) :
    Nat -> Nat -> Nat -> List Char -> Option (List Char × Nat × Cursor)
  | deepest, line, column, [] =>
      some ([], max deepest column, { rest := [], line := line, column := column })
  | deepest, line, column, c :: cs =>
      let goesOn := indent.all fun n => column < n
      if goesOn && c = ' ' then indentation indent deepest line (column + 1) cs
      else if goesOn && c = '\t' then none
      else if isBreak c then
        (indentation indent (max deepest column) (line + 1) 0 cs).map fun (bs, r) => (c :: bs, r)
      else some ([], max deepest column, { rest := c :: cs, line := line, column := column })

/-- The text of the lines from a cursor on, the line break behind the last of them, the line breaks
behind that, and the place where the block is over.  The arguments before the cursor are a bound
on the number of lines, the line break and the further line breaks before the cursor, and whether
the line before starts with a blank. -/
def lines (folded : Bool) (indent : Nat) :
    Nat -> List Char -> List Char -> Bool -> Cursor ->
      Option (List Char × List Char × List Char × Cursor)
  | 0, _, _, _, _ => none
  | bound + 1, lead, trail, indented, c =>
      match c.rest with
      | [] => some ([], lead, trail, c)
      | d :: _ =>
          if c.column = indent then do
            let joins := folded && lead.head? = some '\n' && !indented && !isBlank d
            let gap :=
              if joins then (if trail.isEmpty then [' '] else trail) else lead ++ trail
            let line := c.rest.takeWhile fun e => !isBreak e
            let c := c.skip line.length
            let (lead, c) := match c.rest with
              | [] => ([], c)
              | b :: _ => ([b], c.skipBreak)
            let (trail, _, c) <- indentation (some indent) 0 c.line c.column c.rest
            let (text, r) <- lines folded indent bound lead trail (isBlank d) c
            pure (gap ++ line ++ text, r)
          else some ([], lead, trail, c)

def read (folded : Bool) (least bound : Nat) (c : Cursor) : Option (List Char × Cursor) := do
  let (h, r) <- header (c.rest.drop 1)
  let c <- (c.skipTo r).finishLine
  let announced := h.increment.map fun n => (least - 1) + n
  let (trail, deepest, c) <- indentation announced 0 c.line c.column c.rest
  let indent := announced.getD (max deepest (max least 1))
  let (text, lead, trail, c) <- lines folded indent bound [] trail false c
  match h.ending with
  | .strip => pure (text, c)
  | .clip => pure (text ++ lead, c)
  | .keep => pure (text ++ lead ++ trail, c)

end Block
end Yaml
end LayeredPlot
