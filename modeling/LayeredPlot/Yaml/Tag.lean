import LayeredPlot.Yaml.Scalar.Quoted
import LayeredPlot.Yaml.Token

/-!
# Names, tags and directives

An anchor gives a node a name.  A tag says what a node is to be taken for; it is a
handle with a suffix, and directives before a document say what its handles stand for.
Octets of a tag that are written by their digits are kept as characters of
that code, and a tag ends before a zero octet.
-/

namespace LayeredPlot
namespace Yaml

/-! ## Anchors -/

def followsName (cs : List Char) : Bool :=
  match cs with
  | [] => true
  | c :: _ => endsWord cs || c ∈ ['?', ':', ',', ']', '}', '%', '@', Char.ofNat 96]

def anchorName? (cs : List Char) : Option (List Char) :=
  let name := cs.takeWhile isNameChar
  if !name.isEmpty && followsName (cs.drop name.length) then some name else none

/-! ## Tags -/

namespace Tag

def isTagChar (enclosed : Bool) (c : Char) : Bool :=
  isNameChar c
    || c ∈ [';', '/', '?', ':', '@', '&', '=', '+', '$', '.', '!', '~', '*', '\'', '(', ')']
    || enclosed && c ∈ [',', '[', ']']

def octet? : List Char -> Option (Nat × List Char)
  | '%' :: a :: b :: cs =>
      match hexDigit? a, hexDigit? b with
      | some x, some y => some (x * 16 + y, cs)
      | _, _ => none
  | _ => none

def octetCount? (first : Nat) : Option Nat :=
  if first < 0x80 then some 1
  else if 0xc0 ≤ first && first < 0xe0 then some 2
  else if 0xe0 ≤ first && first < 0xf0 then some 3
  else if 0xf0 ≤ first && first < 0xf8 then some 4
  else none

def laterOctets : Nat -> List Char -> Option (List Char × List Char)
  | 0, cs => some ([], cs)
  | n + 1, cs => do
      let (o, r) <- octet? cs
      if 0x80 ≤ o ∧ o < 0xc0 then
        let (os, r) <- laterOctets n r
        pure (Char.ofNat o :: os, r)
      else none

def octets? (cs : List Char) : Option (List Char × List Char) := do
  let (o, r) <- octet? cs
  let n <- octetCount? o
  let (os, r) <- laterOctets (n - 1) r
  pure (Char.ofNat o :: os, r)

def more (enclosed : Bool) : Nat -> List Char -> Option (List Char × List Char)
  | 0, cs => some ([], cs)
  | _ + 1, [] => some ([], [])
  | bound + 1, c :: cs =>
      if c = '%' then do
        let (os, r) <- octets? (c :: cs)
        let (text, r) <- more enclosed bound r
        pure (os ++ text, r)
      else if isTagChar enclosed c then
        (more enclosed bound cs).map fun (text, r) => (c :: text, r)
      else some ([], c :: cs)

def untilZero (cs : List Char) : List Char :=
  cs.takeWhile fun c => c.toNat ≠ 0

def text? (enclosed : Bool) (cs : List Char) : Option (List Char × List Char) :=
  match more enclosed cs.length cs with
  | some (text, r) => if text.isEmpty then none else some (untilZero text, r)
  | none => none

/-- The handle that a text starts with: an exclamation mark, or a name between two of them.  A name
behind only one of them is part of the result, too. -/
def handle (cs : List Char) : List Char :=
  let name := (cs.drop 1).takeWhile isNameChar
  let closing := (cs.drop (1 + name.length)).takeWhile (· = '!')
  '!' :: name ++ closing.take 1

def isClosed (handle : List Char) : Bool :=
  1 < handle.length && handle.getLast? = some '!'

def read (cs : List Char) : Option (Token × List Char) :=
  match cs with
  | _ :: '<' :: r => do
      let (suffix, r) <- text? true r
      match r with
      | '>' :: r => pure (.tag [] suffix, r)
      | _ => none
  | cs => do
      let h := handle cs
      let r := cs.drop h.length
      if isClosed h then
        let (suffix, r) <- text? false r
        pure (.tag h suffix, r)
      else
        let (text, r) <- more false r.length r
        let suffix := untilZero (h.drop 1 ++ text)
        pure (if suffix.isEmpty then .tag [] ['!'] else .tag ['!'] suffix, r)

def isOver (inBrackets : Bool) (cs : List Char) : Bool :=
  (inBrackets && cs.head? = some ',') || endsWord cs

end Tag

/-! ## Directives -/

namespace Directive

def versionDigits : Nat := 9

def number? (cs : List Char) : Option (Nat × List Char) :=
  let ds := cs.takeWhile Char.isDigit
  if ds.isEmpty || versionDigits < ds.length then none
  else some (ds.foldl (fun n d => n * 10 + (d.toNat - '0'.toNat)) 0, cs.drop ds.length)

def dropBlanks (cs : List Char) : List Char :=
  cs.dropWhile isBlank

def version? (cs : List Char) : Option (Token × List Char) := do
  let (major, r) <- number? (dropBlanks cs)
  match r with
  | '.' :: r =>
      let (minor, r) <- number? r
      pure (.version major minor, r)
  | _ => none

def tagHandle? (cs : List Char) : Option (Token × List Char) := do
  let cs := dropBlanks cs
  if cs.head? = some '!' then
    let h := Tag.handle cs
    let r := cs.drop h.length
    if (Tag.isClosed h || h.length = 1) && (r.head?.map isBlank).getD false then
      let (stem, r) <- Tag.text? true (dropBlanks r)
      if endsWord r then pure (.tagHandle h stem, r) else none
    else none
  else none

def read (cs : List Char) : Option (Token × List Char) :=
  let name := (cs.drop 1).takeWhile isNameChar
  let r := cs.drop (1 + name.length)
  if !endsWord r then none
  else if name = "YAML".toList then version? r
  else if name = "TAG".toList then tagHandle? r
  else none

end Directive
end Yaml
end LayeredPlot
