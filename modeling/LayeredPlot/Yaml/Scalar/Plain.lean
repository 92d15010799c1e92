import LayeredPlot.Yaml.Scalar.Gap

/-!
# Scalars without quotes

A scalar without quotes ends before a colon that ends a key, before a comment
and before a line that starts too far to the left.  Between brackets it also ends before
the characters that brackets give a meaning.
-/

namespace LayeredPlot
namespace Yaml
namespace Plain

def isSeparator (c : Char) : Bool :=
  c ∈ [',', '[', ']', '{', '}']

/-- Whether what follows a colon between brackets leaves open if the colon ends a key. -/
def isDubious : List Char -> Bool
  | [] => false
  | c :: _ => isSeparator c || c = '?'

def word (inBrackets : Bool) : List Char -> Option (List Char × List Char)
  | [] => some ([], [])
  | c :: cs =>
      if endsWord (c :: cs) then some ([], c :: cs)
      else if inBrackets && c = ':' && isDubious cs then none
      else if (c = ':' && endsWord cs) || (inBrackets && isSeparator c) then some ([], c :: cs)
      else (word inBrackets cs).map fun (w, r) => (c :: w, r)

/-- A scalar that goes on at a cursor.  The gap before the cursor counts only if a word follows.
The result also tells if the scalar is followed by a line break.  The argument before the gap bounds
the number of words. -/
def more (inBrackets : Bool) (least : Nat) :
    Nat -> Gap -> Cursor -> Option (List Char × Bool × Cursor)
  | 0, _, _ => none
  | bound + 1, g, c =>
      if c.isDocumentMark || c.rest.head? = some '#' then some ([], g.crosses, c)
      else do
        let (w, _) <- word inBrackets c.rest
        if w.isEmpty then pure ([], g.crosses, c)
        else
          let c := c.skip w.length
          let (next, c) <- c.gap least
          if next.crosses && !inBrackets && c.column < least then
            pure (g.text ++ w, true, c)
          else
            let (text, crosses, c) <- more inBrackets least bound next c
            pure (g.text ++ w ++ text, crosses, c)

def read (inBrackets : Bool) (least bound : Nat) (c : Cursor) :
    Option (List Char × Bool × Cursor) :=
  more inBrackets least bound { blanks := [], breaks := [] } c

end Plain
end Yaml
end LayeredPlot
