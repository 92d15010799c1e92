import LayeredPlot.Proofs.Outcome
import LayeredPlot.Proofs.Yaml.Leaves
import LayeredPlot.Proofs.Yaml.Parsing
import LayeredPlot.Yaml.Standard

/-!
# Laws of the library for documents

What the library of plots writes is read back by it: blocks of mappings and lists as they are, and
every number whose shortest decimal is read as the same number.
-/

namespace LayeredPlot
namespace Yaml

/-!
## Nodes that are written
-/

theorem isKey_of_isName {name : String} (h : isName name = true) : IsKey name.toList := by
  unfold isName at h
  simp only [Bool.and_eq_true, Bool.not_eq_true', List.isEmpty_eq_false_iff, decide_eq_true_eq,
    List.all_eq_true, Bool.or_eq_true] at h
  rcases h with ⟨⟨hne, hlength⟩, hchars⟩
  have hword : forall c, c ∈ name.toList -> isWordChar c = true := by
    intro c hc
    rcases hchars c hc with hlower | rfl
    · simp [isWordChar, isNameChar, Char.isAlphanum, Char.isAlpha, hlower]
    · rfl
  have hmark : forall c, c ∈ name.toList -> c ≠ '-' ∧ c ≠ '.' := by
    intro c hc
    constructor
    all_goals
      rintro rfl
      exact absurd (hchars _ hc) (by decide)
  have hhead : forall c, name.toList.head? = some c -> c ≠ '-' ∧ c ≠ '.' := fun c hc =>
    hmark c (List.mem_of_mem_head? hc)
  exact {
    ne_nil := hne
    chars := hword
    ne_dash := fun heq => (hmark '-' (heq ▸ List.mem_singleton_self '-')).1 rfl
    starts := ⟨fun hc => (hhead _ hc).1 rfl, fun hc => (hhead _ hc).2 rfl⟩
    length_le := Nat.le_trans hlength (by decide) }

namespace Node

theorem ofFields_eq_map (fs : Fields Value) :
    ofFields fs = fs.map fun f => (plain f.1.toList, ofValue f.2) := by
  induction fs with
  | nil => rw [ofFields, List.map_nil]
  | cons f fs ih => rw [ofFields, ih, List.map_cons]

theorem writable_ofValue {v : Value} (h : v.IsBlock) : (ofValue v).Writable := by
  induction h with
  | leaf l =>
      rw [ofValue]
      exact .word (isWord_text l)
  | list items =>
      rw [ofValue]
      apply Writable.list
      intro n hn
      rcases List.mem_map.mp hn with ⟨l, _, rfl⟩
      exact ⟨l.text, rfl, isWord_text l⟩
  | @map fields hne hnames _ _ ih =>
      rw [ofValue, ofFields_eq_map]
      refine Writable.map (by simpa using hne) ?_ ?_
      · intro e he
        rcases List.mem_map.mp he with ⟨f, hf, rfl⟩
        exact ⟨f.1.toList, rfl, isKey_of_isName (hnames f hf)⟩
      · intro e he
        rcases List.mem_map.mp he with ⟨f, hf, rfl⟩
        exact ih f hf

theorem anchorsOfEntries_eq_nil {es : List (Node × Node)}
    (h : forall e, e ∈ es -> e.1.anchors = [] ∧ e.2.anchors = []) :
    anchorsOfEntries es = [] := by
  induction es with
  | nil => rw [anchorsOfEntries]
  | cons e es ih =>
      rcases h e List.mem_cons_self with ⟨hkey, hvalue⟩
      rw [anchorsOfEntries, hkey, hvalue, ih fun f hf => h f (List.mem_cons_of_mem e hf)]
      rfl

theorem Writable.anchors_eq_nil {v : Node} (h : v.Writable) : v.anchors = [] := by
  induction h with
  | word hw => rw [anchors]
  | @list items hwords =>
      rw [anchors]
      induction items with
      | nil => rw [anchorsOfItems]
      | cons n ns ih =>
          rcases hwords n List.mem_cons_self with ⟨w, rfl, _⟩
          rw [anchorsOfItems, anchors, ih fun m hm => hwords m (List.mem_cons_of_mem _ hm)]
          rfl
  | map hne hkeys hvalues ih =>
      rw [anchors]
      apply anchorsOfEntries_eq_nil
      intro e he
      rcases hkeys e he with ⟨k, hkey, _⟩
      exact ⟨by rw [hkey, anchors], ih e he⟩

theorem Writable.resolve_eq {v : Node} (h : v.Writable) : Anchors.resolve [] v = v := by
  cases h <;> rfl

theorem fields?_ofFields {fs : Fields Value} (values : forall f, f ∈ fs -> f.2.IsBlock) :
    (map (ofFields fs)).fields? [] = some (fs.map fun f => (f.1, ofValue f.2)) := by
  rw [ofFields_eq_map]
  change List.mapM _ (fs.map _) = _
  rw [List.mapM_map, mapM_eq_some]
  intro f hf
  have hkey : Anchors.resolve [] (plain f.1.toList) = plain f.1.toList := rfl
  simp only [Function.comp_apply, (writable_ofValue (values f hf)).resolve_eq, hkey, name?,
    String.ofList_toList, Option.map_some]

end Node

/-!
## Laws
-/

namespace Library

def standardPart (v : Value) : standard.Part :=
  ([], Node.ofValue v)

theorem standard_read_write {fs : Fields Value} (h : (Value.map fs).IsBlock) :
    standard.write? fs >>= standard.read? = some (standardPart (.map fs)) := by
  have hnode : Node.ofValue (.map fs) = .map (Node.ofFields fs) := by rw [Node.ofValue]
  have hwritable := Node.writable_ofValue h
  rw [hnode] at hwritable
  have hdocument : documentOf fs = String.ofList (Node.linesOfEntries 0 (Node.ofFields fs)) := by
    cases h with
    | map hne _ _ _ =>
        rcases List.exists_cons_of_ne_nil hne with ⟨f, rest, rfl⟩
        rfl
  change (Node.ofDocument? (documentOf fs)).map _ = _
  rw [hdocument, Node.ofDocument?_linesOfEntries hwritable, Option.map_some]
  unfold standardPart Anchors.ofDocument
  rw [hnode, hwritable.anchors_eq_nil]
  rfl

theorem standard_fields?_part {fs : Fields Value} (h : (Value.map fs).IsBlock) :
    standard.fields? (standardPart (.map fs))
      = some (fs.map fun f => (f.1, standardPart f.2)) := by
  have hvalues : forall f, f ∈ fs -> f.2.IsBlock := by
    cases h with
    | map _ _ _ values => exact values
  have hnode : Node.ofValue (.map fs) = .map (Node.ofFields fs) := by rw [Node.ofValue]
  change Option.map _ ((Node.ofValue (.map fs)).fields? []) = _
  rw [hnode, Node.fields?_ofFields hvalues, Option.map_some, List.map_map]
  rfl

theorem standard_items?_part (ls : List Leaf) :
    standard.items? (standardPart (.list ls))
      = some (ls.map fun l => standardPart (.leaf l)) := by
  have hnode : Node.ofValue (.list ls) = .list (ls.map fun l => Node.plain l.text) := by
    rw [Node.ofValue]
  have hleaf : forall l : Leaf, Node.ofValue (.leaf l) = Node.plain l.text := by
    intro l
    rw [Node.ofValue]
  change Option.map _ ((Node.ofValue (.list ls)).items? []) = _
  rw [hnode]
  simp only [Node.items?, List.map_map, Option.map_some, standardPart, hleaf]
  rfl

theorem standard_laws : standard.Laws standardPart where
  read_write _ h := standard_read_write h
  fields?_part _ h := standard_fields?_part h
  items?_part := standard_items?_part
  natural?_part _ h := natural?_text h
  flag?_part := flag?_text
  fields?_nil := rfl
  fields?_blank := rfl

theorem standard_readsBack {x : Float}
    (h : x.isFinite = true -> Double.ofText? (Leaf.number x).text = some x) :
    standard.ReadsBack standardPart x :=
  number?_text h

end Library
end Yaml
end LayeredPlot
