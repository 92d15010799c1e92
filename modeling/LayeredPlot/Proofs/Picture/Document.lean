import LayeredPlot.Number.Double
import LayeredPlot.Picture.Document
import LayeredPlot.Proofs.Number.Digits
import Mathlib.Algebra.Ring.Nat

/-!
# Texts stay texts

A text of a plot stands in a document with entities for the characters that mean something there,
so it cannot open or close a tag or end an attribute, and it is read back as it was.  A document has
one opening angle bracket for each tag of its own, whatever texts and numbers stand in it.
-/

namespace LayeredPlot

/-!
## Entities
-/

namespace Entity

def entities : List (List Char) :=
  [['&', 'a', 'm', 'p', ';'], ['&', 'l', 't', ';'], ['&', 'g', 't', ';'],
    ['&', 'q', 'u', 'o', 't', ';']]

def replaceAll (c : Char) (entity : String) (s : List Char) : List Char :=
  s.flatMap fun d => if d = c then entity.toList else [d]

/-- A text as it stands in a document: free of brackets and quotes, with ampersands only where an
entity begins, and such that reading the entities gives the text. -/
structure IsEscape (s t : List Char) : Prop where
  free : forall c, c ∈ ['<', '>', '"'] -> c ∉ t
  begins : forall r, '&' :: r <:+ t -> exists e, e ∈ entities ∧ e <+: '&' :: r
  decoded : decode t = s

theorem encode_cons (c : Char) (s : List Char) : encode (c :: s) = ofChar c ++ encode s :=
  List.flatMap_cons

theorem ofChar_cases (c : Char) :
    ofChar c ∈ entities ∨ ofChar c = [c] ∧ c ∉ ['&', '<', '>', '"'] := by
  unfold ofChar
  split
  · exact Or.inl (by decide)
  · exact Or.inl (by decide)
  · exact Or.inl (by decide)
  · exact Or.inl (by decide)
  next hamp hlt hgt hquot =>
      refine Or.inr ⟨rfl, ?_⟩
      simp only [List.mem_cons, List.not_mem_nil, or_false, not_or]
      exact ⟨hamp, hlt, hgt, hquot⟩

theorem entity_free {e : List Char} (he : e ∈ entities) :
    forall c, c ∈ ['<', '>', '"'] -> c ∉ e := by
  have hall : entities.all fun e => ['<', '>', '"'].all fun c => c ∉ e := by decide
  intro c hc
  exact of_decide_eq_true (List.all_eq_true.mp (List.all_eq_true.mp hall e he) c hc)

theorem entity_begins {e : List Char} (he : e ∈ entities) :
    exists r, e = '&' :: r ∧ '&' ∉ r := by
  simp only [entities, List.mem_cons, List.not_mem_nil, or_false] at he
  rcases he with rfl | rfl | rfl | rfl
  all_goals exact ⟨_, rfl, by decide⟩

theorem encode_free (s : List Char) : forall c, c ∈ ['<', '>', '"'] -> c ∉ encode s := by
  intro c hc hmem
  rcases List.mem_flatMap.mp hmem with ⟨d, _, hd⟩
  rcases ofChar_cases d with he | ⟨hself, hnot⟩
  · exact entity_free he c hc hd
  · rw [hself, List.mem_singleton] at hd
    rw [hd] at hc
    exact hnot (List.mem_cons_of_mem _ hc)

theorem suffix_of_not_mem {α : Type} {a : α} {r s t : List α} (hs : a ∉ s)
    (h : a :: r <:+ s ++ t) : a :: r <:+ t := by
  induction s with
  | nil => exact h
  | cons b s ih =>
      rw [List.mem_cons, not_or] at hs
      rcases List.suffix_cons_iff.mp h with heq | h
      · exact absurd (List.cons.inj heq).1 hs.1
      · exact ih hs.2 h

theorem encode_begins (s r : List Char) (h : '&' :: r <:+ encode s) :
    exists e, e ∈ entities ∧ e <+: '&' :: r := by
  induction s with
  | nil => cases List.suffix_nil.mp h
  | cons c s ih =>
      rw [encode_cons] at h
      rcases ofChar_cases c with he | ⟨hself, hnot⟩
      · rcases entity_begins he with ⟨name, hname, hone⟩
        rw [hname] at h
        rcases List.suffix_cons_iff.mp h with heq | h
        · refine ⟨ofChar c, he, ?_⟩
          rw [heq, hname]
          exact List.prefix_append _ _
        · exact ih (suffix_of_not_mem hone h)
      · rw [hself] at h
        refine ih (suffix_of_not_mem ?_ h)
        intro hamp
        rw [← List.mem_singleton.mp hamp] at hnot
        exact hnot List.mem_cons_self

theorem decode_ofChar_append (c : Char) (r : List Char) :
    decode (ofChar c ++ r) = c :: decode r := by
  unfold ofChar
  split
  · rfl
  · rfl
  · rfl
  · rfl
  next hamp _ _ _ =>
      rw [List.singleton_append, decode]
      all_goals
        intro _ hc
        exact absurd hc hamp

theorem decode_encode (s : List Char) : decode (encode s) = s := by
  induction s with
  | nil => rfl
  | cons c s ih => rw [encode_cons, decode_ofChar_append, ih]

theorem isEscape_encode (s : List Char) : IsEscape s (encode s) where
  free := encode_free s
  begins := encode_begins s
  decoded := decode_encode s

/-- The characters can be replaced one after another if ampersands come first: none of the entities
has a character that is replaced later. -/
theorem encode_eq_replaceAll (s : List Char) :
    encode s = replaceAll '"' "&quot;" (replaceAll '>' "&gt;" (replaceAll '<' "&lt;"
      (replaceAll '&' "&amp;" s))) := by
  unfold encode replaceAll
  simp only [List.flatMap_assoc]
  congr 1
  funext c
  unfold ofChar
  split
  · decide
  · decide
  · decide
  · decide
  next hamp hlt hgt hquot =>
      rw [if_neg hamp, List.flatMap_singleton, if_neg hlt, List.flatMap_singleton, if_neg hgt,
        List.flatMap_singleton, if_neg hquot]

theorem toList_escape (s : String) : (escape s).toList = encode s.toList :=
  String.toList_ofList

theorem escape_injective : Function.Injective escape := by
  intro s t h
  have hlist := congrArg (fun u => decode u.toList) h
  simp only [toList_escape, decode_encode] at hlist
  exact String.toList_inj.mp hlist

end Entity

/-!
## Opening brackets
-/

def openings (s : String) : Nat :=
  s.toList.count '<'

theorem openings_append (s t : String) : openings (s ++ t) = openings s + openings t := by
  unfold openings
  rw [String.toList_append, List.count_append]

theorem openings_escape (s : String) : openings (Entity.escape s) = 0 := by
  unfold openings
  rw [Entity.toList_escape]
  exact List.count_eq_zero.mpr (Entity.encode_free s.toList '<' List.mem_cons_self)

theorem openings_attr (name value : String) :
    openings (attr name value) = openings name + openings value := by
  have hspace : openings " " = 0 := rfl
  have hopen : openings "=\"" = 0 := rfl
  have hclose : openings "\"" = 0 := rfl
  unfold attr
  simp only [openings_append, hspace, hopen, hclose, Nat.zero_add, Nat.add_zero]

theorem openings_intercalate {separator : String} (hseparator : openings separator = 0)
    {texts : List String} (htexts : forall s, s ∈ texts -> openings s = 0) :
    openings (separator.intercalate texts) = 0 := by
  induction texts with
  | nil => rfl
  | cons s texts ih =>
      have hs := htexts s List.mem_cons_self
      have hrest := ih fun t ht => htexts t (List.mem_cons_of_mem s ht)
      cases texts with
      | nil => rw [String.intercalate_singleton, hs]
      | cons t texts =>
          rw [String.intercalate_cons_cons, openings_append, openings_append, hs, hseparator, hrest]

/-!
## Numbers
-/

theorem openings_naturalText (n : Nat) : openings (naturalText n) = 0 := by
  unfold openings naturalText
  rw [String.toList_ofList]
  refine List.count_eq_zero.mpr fun h => ?_
  exact Bool.false_ne_true (isDigit_of_mem_digits h)

namespace NumberStyle

theorem mem_signed {negative : Bool} {c : Char} {cs : List Char} (h : c ∈ signed negative cs) :
    c = '-' ∨ c ∈ cs := by
  cases negative with
  | false => exact Or.inr h
  | true => exact List.mem_cons.mp h

theorem mem_chars_plain {parts : Double.Parts} {c : Char} (h : c ∈ plain.chars parts) :
    isDecimalChar c = true ∨ c ∈ "NaN".toList ∨ c ∈ "inf".toList := by
  have hdecimal : forall {negative : Bool} {d : Decimal},
      c ∈ signed negative (d.write plain) -> isDecimalChar c = true := by
    intro negative d h
    rcases mem_signed h with rfl | h
    · rfl
    · exact (d.isNumeral_write plain).chars c h
  cases parts with
  | undefined => exact Or.inr (Or.inl h)
  | infinite negative =>
      rcases mem_signed h with rfl | h
      · exact Or.inl rfl
      · exact Or.inr (Or.inr h)
  | zero negative => exact Or.inl (hdecimal h)
  | finite negative mantissa exponent narrow => exact Or.inl (hdecimal h)

theorem openings_text_plain (x : Float) : openings (plain.text x) = 0 := by
  unfold openings text
  rw [String.toList_ofList]
  refine List.count_eq_zero.mpr fun h => ?_
  rcases mem_chars_plain h with h | h | h
  · exact Bool.false_ne_true h
  · exact absurd h (by decide)
  · exact absurd h (by decide)

end NumberStyle

/-!
## Elements
-/

inductive ShapeKind
  | circle
  | line
  | polyline
  | text
  deriving DecidableEq, Repr

namespace ShapeKind

def tags : ShapeKind -> Nat
  | text => 2
  | _ => 1

end ShapeKind

namespace Shape

def kind {num : Type} : Shape num -> ShapeKind
  | circle .. => .circle
  | line .. => .line
  | polyline .. => .polyline
  | text .. => .text

theorem openings_numberAttribute (name : String) (x : Float) :
    openings (numberAttribute name x) = openings name := by
  unfold numberAttribute
  rw [openings_attr]
  exact congrArg (openings name + ·) (NumberStyle.openings_text_plain x)

theorem openings_textAttribute (name text : String) :
    openings (textAttribute name text) = openings name := by
  unfold textAttribute
  rw [openings_attr, openings_escape, Nat.add_zero]

theorem openings_pointsText (points : List (Float × Float)) : openings (pointsText points) = 0 := by
  refine openings_intercalate rfl fun s hs => ?_
  rcases List.mem_map.mp hs with ⟨point, _, rfl⟩
  have hcomma : openings "," = 0 := rfl
  rw [openings_append, openings_append, hcomma]
  exact congrArg₂ (· + 0 + ·) (NumberStyle.openings_text_plain _)
    (NumberStyle.openings_text_plain _)

theorem openings_element (s : Shape Float) : openings s.element = s.kind.tags := by
  cases s with
  | circle x y radius fill opacity =>
      simp only [element, openings_append, openings_numberAttribute, openings_textAttribute]
      rfl
  | line x1 y1 x2 y2 stroke width =>
      simp only [element, openings_append, openings_numberAttribute, openings_textAttribute]
      rfl
  | polyline points stroke width opacity =>
      simp only [element, openings_append, openings_attr, openings_pointsText,
        openings_numberAttribute, openings_textAttribute]
      rfl
  | text x y content anchor =>
      have hanchor : openings anchor.name = 0 := by cases anchor <;> rfl
      simp only [element, openings_append, openings_attr, openings_numberAttribute,
        openings_escape, hanchor]
      rfl

end Shape

/-!
## Documents
-/

namespace Canvas

def countOf (c : Canvas Float) (kind : ShapeKind) : Nat :=
  (c.shapes.map Shape.kind).count kind

theorem openings_openingTag (width height : Nat) : openings (openingTag width height) = 1 := by
  simp only [openingTag, openings_append, openings_attr, openings_naturalText]
  rfl

theorem openings_lines (elements : List String) :
    openings (String.join (elements.map fun e => "  " ++ e ++ "\n"))
      = (elements.map openings).sum := by
  induction elements with
  | nil => rfl
  | cons e elements ih =>
      have hline : openings ("  " ++ e ++ "\n") = openings e := by
        rw [openings_append, openings_append]
        exact Nat.zero_add (openings e)
      rw [List.map_cons, List.map_cons, List.sum_cons, String.join_cons, openings_append, hline, ih]

theorem sum_map_tags (kinds : List ShapeKind) :
    (kinds.map ShapeKind.tags).sum
      = kinds.count .circle + kinds.count .line + kinds.count .polyline
        + 2 * kinds.count .text := by
  induction kinds with
  | nil => rfl
  | cons kind kinds ih =>
      rw [List.map_cons, List.sum_cons, ih]
      cases kind <;> simp [ShapeKind.tags] <;> omega

theorem openings_document (c : Canvas Float) :
    openings c.document = 3 + ((c.shapes.map Shape.kind).map ShapeKind.tags).sum := by
  have hshapes : (c.shapes.map Shape.element).map openings
      = (c.shapes.map Shape.kind).map ShapeKind.tags := by
    rw [List.map_map, List.map_map]
    apply List.map_congr_left
    intro s _
    exact s.openings_element
  have hnewline : openings "\n" = 0 := rfl
  have hground : openings ground = 1 := rfl
  have hclose : openings "</svg>\n" = 1 := rfl
  unfold document
  rw [openings_append, openings_append, openings_append, openings_openingTag, openings_lines,
    List.map_cons, List.sum_cons, hshapes, hnewline, hground, hclose]
  omega

/-- Whatever texts stand in a picture, each of them stands in the document in such a way that it can
be told where it ends and what it is.  So the document has tags of its own only: three for itself
and its ground, and for each shape one, or two around a text. -/
theorem document_of_any_texts :
    (forall s : String, Entity.IsEscape s.toList (Entity.escape s).toList
      ∧ (Entity.escape s).toList
        = Entity.replaceAll '"' "&quot;" (Entity.replaceAll '>' "&gt;"
          (Entity.replaceAll '<' "&lt;" (Entity.replaceAll '&' "&amp;" s.toList))))
      ∧ Function.Injective Entity.escape
      ∧ forall c : Canvas Float, c.document.toList.count '<'
        = 3 + c.countOf .circle + c.countOf .line + c.countOf .polyline
          + 2 * c.countOf .text := by
  refine ⟨?_, Entity.escape_injective, ?_⟩
  · intro s
    rw [Entity.toList_escape]
    exact ⟨Entity.isEscape_encode s.toList, Entity.encode_eq_replaceAll s.toList⟩
  · intro c
    have hdocument := openings_document c
    rw [sum_map_tags] at hdocument
    unfold openings at hdocument
    unfold countOf
    omega

end Canvas
end LayeredPlot
