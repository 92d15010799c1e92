import LayeredPlot.Yaml.Scalar.Gap

/-!
# Scalars in quotes

Between single quotes only the quote itself is written in another way, namely
twice.  Between double quotes a backslash starts the name or the code point of a
character, or joins two lines.
-/

namespace LayeredPlot
namespace Yaml

def hexDigit? (c : Char) : Option Nat :=
  if '0' ≤ c ∧ c ≤ '9' then some (c.toNat - '0'.toNat)
  else if 'a' ≤ c ∧ c ≤ 'f' then some (c.toNat - 'a'.toNat + 10)
  else if 'A' ≤ c ∧ c ≤ 'F' then some (c.toNat - 'A'.toNat + 10)
  else none

namespace DoubleQuoted

def named? : Char -> Option Char
  | '0' => some (Char.ofNat 0)
  | 'a' => some (Char.ofNat 0x7)
  | 'b' => some (Char.ofNat 0x8)
  | 't' => some '\t'
  | '\t' => some '\t'
  | 'n' => some '\n'
  | 'v' => some (Char.ofNat 0xb)
  | 'f' => some (Char.ofNat 0xc)
  | 'r' => some '\r'
  | 'e' => some (Char.ofNat 0x1b)
  | ' ' => some ' '
  | '"' => some '"'
  | '/' => some '/'
  | '\\' => some '\\'
  | 'N' => some nextLine
  | '_' => some (Char.ofNat 0xa0)
  | 'L' => some lineSeparator
  | 'P' => some paragraphSeparator
  | _ => none

def digitCount? : Char -> Option Nat
  | 'x' => some 2
  | 'u' => some 4
  | 'U' => some 8
  | _ => none

def ofDigits? (ds : List Char) : Option Char := do
  let values <- ds.mapM hexDigit?
  let n := values.foldl (fun n v => n * 16 + v) 0
  if Nat.isValidChar n then some (Char.ofNat n) else none

def escaped? : List Char -> Option (Char × Nat)
  | [] => none
  | c :: cs =>
      match named? c, digitCount? c with
      | some d, _ => some (d, 1)
      | none, some n =>
          if cs.length < n then none else (ofDigits? (cs.take n)).map fun d => (d, n + 1)
      | none, none => none

end DoubleQuoted

namespace Quoted

def more (mark : Char) : Nat -> Cursor -> Option (List Char × Cursor)
  | 0, _ => none
  | bound + 1, c =>
      if c.isDocumentMark then none
      else
        match c.rest with
        | [] => none
        | d :: ds =>
            if isBlank d || isBreak d then do
              let (g, c) <- c.gap 0
              let (text, c) <- more mark bound c
              pure (g.text ++ text, c)
            else if d = mark then
              if mark = '\'' ∧ ds.head? = some mark then
                (more mark bound (c.skip 2)).map fun (text, c) => (mark :: text, c)
              else some ([], c.skip 1)
            else if mark = '"' ∧ d = '\\' then
              if (ds.head?.map isBreak).getD false then do
                let (g, c) <- (c.skip 1).skipBreak.gapAfterBreak
                let (text, c) <- more mark bound c
                pure (g.breaks ++ text, c)
              else do
                let (e, n) <- DoubleQuoted.escaped? ds
                let (text, c) <- more mark bound (c.skip (n + 1))
                pure (e :: text, c)
            else (more mark bound (c.skip 1)).map fun (text, c) => (d :: text, c)

def read (mark : Char) (bound : Nat) (c : Cursor) : Option (List Char × Cursor) :=
  more mark bound (c.skip 1)

end Quoted
end Yaml
end LayeredPlot
