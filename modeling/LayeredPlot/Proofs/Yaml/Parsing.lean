import LayeredPlot.Proofs.Yaml.Writing
import LayeredPlot.Yaml.Tree

/-!
# The trees of written documents

The tokens of a written mapping are read back as the mapping.
-/

namespace LayeredPlot
namespace Yaml
namespace Tree

variable {hs : Handles} {bound : Nat} {r : List Token}

def startsContent : List Token -> Bool
  | .reference _ :: _ => false
  | .anchor _ :: _ => false
  | .tag _ _ :: _ => false
  | _ => true

theorem node_of_startsContent (laidOut flush : Bool) {ts : List Token}
    (h : startsContent ts = true) :
    node hs (bound + 1) laidOut flush ts = content hs bound laidOut flush ⟨none, none⟩ ts := by
  have hread : Properties.read hs ts = some (⟨none, none⟩, ts) := by
    unfold Properties.read
    split
    all_goals first | rfl | cases h
  rw [node]
  · rw [hread]
    exact Option.bind_fun_some _
  · rintro k r rfl
    cases h

theorem node_word (laidOut flush : Bool) (w : List Char) (hbound : 2 ≤ bound) :
    node hs bound laidOut flush (.scalar .plain w :: r) = some (.plain w, r) := by
  rcases Nat.exists_eq_add_of_le' hbound with ⟨n, rfl⟩
  rw [node_of_startsContent laidOut flush rfl, content]
  rfl

def EndsEntry (r : List Token) : Prop :=
  r.head? = some .key ∨ r.head? = some .blockEnd

theorem endsItem_scalar (style : Style) (text : List Char) :
    endsItem (.scalar style text :: r) = false :=
  rfl

theorem endsInBlock_scalar (style : Style) (text : List Char) :
    endsInBlock (.scalar style text :: r) = false :=
  rfl

theorem flushItems_of_endsEntry (h : EndsEntry r) : flushItems hs (bound + 1) r = some ([], r) := by
  rw [flushItems]
  rintro ts rfl
  rcases h with h | h <;> cases h

theorem flushItems_itemTokens {items : List Node}
    (words : forall n, n ∈ items -> exists w, n = Node.plain w ∧ IsWord w) (h : EndsEntry r)
    (hbound : items.length + 2 ≤ bound) :
    flushItems hs bound (Node.itemTokens items ++ r) = some (items, r) := by
  induction items generalizing bound with
  | nil =>
      rcases Nat.exists_eq_add_of_le' (Nat.le_of_succ_le hbound) with ⟨n, rfl⟩
      exact flushItems_of_endsEntry h
  | cons n ns ih =>
      rcases words n List.mem_cons_self with ⟨w, rfl, _⟩
      rcases Nat.exists_eq_add_of_le' hbound with ⟨b, rfl⟩
      have hrest : flushItems hs (b + ns.length + 2) (Node.itemTokens ns ++ r) = some (ns, r) :=
        ih (fun m hm => words m (List.mem_cons_of_mem _ hm)) (by omega)
      change flushItems hs (b + ns.length + 2 + 1)
        (.item :: .scalar .plain w :: (Node.itemTokens ns ++ r)) = _
      have hword : node hs (b + ns.length + 2) true false
          (.scalar .plain w :: (Node.itemTokens ns ++ r))
            = some (Node.plain w, Node.itemTokens ns ++ r) :=
        node_word true false w (Nat.le_add_left 2 (b + ns.length))
      rw [flushItems]
      simp only [endsItem_scalar, endsInBlock_scalar, Bool.or_self, Bool.false_eq_true, if_false,
        hword, Option.bind_eq_bind, Option.bind_some, hrest]
      rfl

theorem length_itemTokens (items : List Node) :
    (Node.itemTokens items).length = 2 * items.length := by
  induction items with
  | nil => rfl
  | cons n ns ih =>
      change (Node.itemTokens ns).length + 2 = 2 * (ns.length + 1)
      rw [ih, Nat.mul_succ]

/-- As the value of an entry, the tokens of a node are read back as the node.  No level of the tree
and no entry takes up more of the bound than three for each of its tokens. -/
def ParsesValue (hs : Handles) (v : Node) : Prop :=
  forall bound r, 3 * v.tokens.length ≤ bound -> EndsEntry r ->
    node hs bound true true (v.tokens ++ r) = some (v, r)

theorem parsesValue_list {items : List Node}
    (words : forall n, n ∈ items -> exists w, n = Node.plain w ∧ IsWord w) :
    ParsesValue hs (.list items) := by
  intro bound r hbound h
  cases items with
  | nil =>
      have hthree : 3 ≤ bound := Nat.le_trans (by decide) hbound
      rcases Nat.exists_eq_add_of_le' hthree with ⟨n, rfl⟩
      change node hs (n + 2 + 1) true true (.listStart :: .listEnd :: r) = _
      rw [node_of_startsContent true true rfl, content, items]
      rfl
  | cons n ns =>
      have hfour : (n :: ns).length + 4 ≤ bound := by
        rw [Node.tokens, length_itemTokens, List.length_cons] at hbound
        rw [List.length_cons]
        omega
      rcases Nat.exists_eq_add_of_le' hfour with ⟨b, rfl⟩
      have hitems : flushItems hs (b + (n :: ns).length + 2) (Node.itemTokens (n :: ns) ++ r)
          = some (n :: ns, r) :=
        flushItems_itemTokens words h (by omega)
      rw [Node.tokens]
      change node hs (b + (n :: ns).length + 3 + 1) true true (.item :: .scalar .plain n.text
        :: (Node.itemTokens ns ++ r)) = _
      rw [node_of_startsContent true true rfl, content]
      · change Option.map _ (flushItems hs (b + (n :: ns).length + 2)
          (Node.itemTokens (n :: ns) ++ r)) = _
        rw [hitems]
        rfl

theorem endsEntry_entryTokens (es : List (Node × Node)) (r : List Token) :
    EndsEntry (Node.entryTokens es ++ .blockEnd :: r) := by
  cases es with
  | nil =>
      rw [Node.entryTokens]
      exact Or.inr rfl
  | cons e es =>
      rw [Node.entryTokens]
      exact Or.inl rfl

theorem endsInBlock_tokens {v : Node} (h : v.Writable) (r : List Token) :
    endsInBlock (v.tokens ++ r) = false := by
  cases h with
  | word hw => rfl
  | @list items hwords => cases items <;> rfl
  | map hne hkeys hvalues => rfl

def ParsesEntries (hs : Handles) (es : List (Node × Node)) : Prop :=
  forall e, e ∈ es -> (exists k, e.1 = Node.plain k ∧ IsKey k) ∧ e.2.Writable ∧ ParsesValue hs e.2

theorem blockEntries_entryTokens {es : List (Node × Node)} (h : ParsesEntries hs es)
    (hbound : 3 * (Node.entryTokens es).length + 1 ≤ bound) :
    blockEntries hs bound (Node.entryTokens es ++ .blockEnd :: r) = some (es, r) := by
  induction es generalizing bound with
  | nil =>
      rcases Nat.exists_eq_add_of_le' (Nat.le_of_add_left_le hbound) with ⟨n, rfl⟩
      rw [Node.entryTokens]
      rfl
  | cons e es ih =>
      rcases e with ⟨key, v⟩
      rcases h _ List.mem_cons_self with ⟨⟨k, rfl, _⟩, hwritable, hv⟩
      rw [Node.entryTokens] at hbound ⊢
      simp only [List.length_cons, List.length_append] at hbound
      rcases Nat.exists_eq_add_of_le' (show 1 ≤ bound by omega) with ⟨n, rfl⟩
      have hvalue : node hs n true true (v.tokens ++ (Node.entryTokens es ++ .blockEnd :: r))
          = some (v, Node.entryTokens es ++ .blockEnd :: r) := by
        refine hv n _ ?_ (endsEntry_entryTokens es r)
        change 3 * v.tokens.length ≤ n
        omega
      have hkey : node hs n true true (.scalar .plain k
          :: .value :: (v.tokens ++ (Node.entryTokens es ++ .blockEnd :: r)))
          = some (Node.plain k, .value :: (v.tokens ++ (Node.entryTokens es ++ .blockEnd :: r))) :=
        node_word true true k (by omega)
      have hrest : blockEntries hs n (Node.entryTokens es ++ .blockEnd :: r) = some (es, r) :=
        ih (fun f hf => h f (List.mem_cons_of_mem _ hf)) (by omega)
      change blockEntries hs (n + 1) (.key :: .scalar .plain k :: .value ::
        (v.tokens ++ Node.entryTokens es ++ .blockEnd :: r)) = _
      rw [blockEntries, List.append_assoc]
      simp only [endsInBlock_scalar, hkey, Option.bind_eq_bind, Option.bind_some,
        endsInBlock_tokens hwritable, Bool.false_eq_true, if_false, hvalue, hrest]
      rfl

theorem node_map (flush : Bool) {es : List (Node × Node)} (h : ParsesEntries hs es)
    (hbound : 3 * (Node.map es).tokens.length ≤ bound) :
    node hs bound true flush ((Node.map es).tokens ++ r) = some (.map es, r) := by
  rw [Node.tokens, List.length_cons, List.length_append, List.length_singleton] at hbound
  rcases Nat.exists_eq_add_of_le' (show 2 ≤ bound by omega) with ⟨n, rfl⟩
  have hentries : blockEntries hs n (Node.entryTokens es ++ .blockEnd :: r) = some (es, r) :=
    blockEntries_entryTokens h (by omega)
  rw [Node.tokens, List.cons_append, List.append_assoc,
    node_of_startsContent true flush rfl, content]
  change Option.map _ (blockEntries hs n (Node.entryTokens es ++ .blockEnd :: r)) = _
  rw [hentries]
  rfl

theorem parsesValue_of_writable {v : Node} (h : v.Writable) : ParsesValue hs v := by
  induction h with
  | @word w hw =>
      intro bound r hbound _
      have hthree : 3 ≤ bound := hbound
      exact node_word true true w (Nat.le_of_succ_le hthree)
  | list hwords => exact parsesValue_list hwords
  | map hne hkeys hvalues ih =>
      intro bound r hbound _
      exact node_map true (fun e he => ⟨hkeys e he, hvalues e he, ih e he⟩) hbound

theorem ofTokens?_of_writable {es : List (Node × Node)} (h : (Node.map es).Writable) :
    ofTokens? (Node.map es).tokens = some (.map es) := by
  have hnode : node .standard (3 * ((Node.map es).tokens.length + 1)) true false
      ((Node.map es).tokens ++ []) = some (.map es, []) := by
    cases h with
    | map hne hkeys hvalues =>
        exact node_map false (fun e he => ⟨hkeys e he, hvalues e he, parsesValue_of_writable
          (hvalues e he)⟩) (by omega)
  rw [List.append_nil] at hnode
  change ofRoot? .standard (Node.map es).tokens = _
  rw [ofRoot?, hnode]
  rfl

end Tree

theorem Node.ofDocument?_linesOfEntries {es : List (Node × Node)} (h : (Node.map es).Writable) :
    Node.ofDocument? (String.ofList (Node.linesOfEntries 0 es)) = some (.map es) := by
  unfold Node.ofDocument?
  rw [String.toList_ofList, tokens?_of_writable h]
  exact Tree.ofTokens?_of_writable h

end Yaml
end LayeredPlot
