import LayeredPlot.Yaml.Cursor

/-!
# Gaps between the words of a scalar

A scalar can go on over several lines.  Blanks around a line break do not count,
a single line break counts as a space, and of several line breaks all but the first
count.
-/

namespace LayeredPlot
namespace Yaml

structure Gap where
  blanks : List Char
  breaks : List Char
  deriving DecidableEq, Repr

namespace Gap

def crosses (g : Gap) : Bool :=
  !g.breaks.isEmpty

def text (g : Gap) : List Char :=
  match g.breaks with
  | [] => g.blanks
  | b :: bs => if b = '\n' then (if bs.isEmpty then [' '] else bs) else b :: bs

/-- The gap that a text starts with.  Behind a line break, a tab cannot stand to the left of the
column `least`. -/
def read (least : Nat) : Bool -> Nat -> Nat -> List Char -> Option (Gap × Cursor)
  | _, line, column, [] =>
      some ({ blanks := [], breaks := [] }, { rest := [], line := line, column := column })
  | crossed, line, column, c :: cs =>
      if isBreak c then
        (read least true (line + 1) 0 cs).map fun (g, r) => ({ g with breaks := c :: g.breaks }, r)
      else if isBlank c then
        if crossed && c = '\t' && column < least then none
        else
          (read least crossed line (column + 1) cs).map fun (g, r) =>
            (if crossed then g else { g with blanks := c :: g.blanks }, r)
      else
        some ({ blanks := [], breaks := [] },
          { rest := c :: cs, line := line, column := column })

end Gap

namespace Cursor

def gap (least : Nat) (c : Cursor) : Option (Gap × Cursor) :=
  Gap.read least false c.line c.column c.rest

def gapAfterBreak (c : Cursor) : Option (Gap × Cursor) :=
  Gap.read 0 true c.line c.column c.rest

end Cursor
end Yaml
end LayeredPlot
