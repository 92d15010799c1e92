import LayeredPlot.Yaml.Library
import Mathlib.Data.List.Perm.Subperm

/-!
# Fields that are left

What stands under a name is the same after other fields are deleted and the rest is put in another
order.
-/

namespace LayeredPlot
namespace Yaml
namespace Fields

theorem subperm_map {first second : Type} {xs ys : List first} (f : first -> second)
    (h : xs.Subperm ys) : (xs.map f).Subperm (ys.map f) := by
  rcases h with ⟨zs, hperm, hsub⟩
  exact ⟨zs.map f, hperm.map f, hsub.map f⟩

theorem nodup_of_subperm {item : Type} {xs ys : List item} (h : xs.Subperm ys) (hys : ys.Nodup) :
    xs.Nodup := by
  rcases h with ⟨zs, hperm, hsub⟩
  exact hperm.nodup_iff.mp (hys.sublist hsub)

variable {content value : Type} {fs gs : Fields content} {name : String} {c : content}

theorem filter_of_lookup_eq_some (h : fs.lookup name = some (some c)) :
    (fs.filter fun f => f.1 = name) = [(name, c)] := by
  unfold lookup at h
  split at h
  · cases h
  next f heq =>
      cases h
      have hf : f ∈ fs.filter fun f => f.1 = name := heq ▸ List.mem_singleton_self f
      have hname := of_decide_eq_true (List.mem_filter.mp hf).2
      rw [heq, ← hname]
  · cases h

theorem lookup_of_subperm (hfs : fs.Subperm gs) (h : gs.lookup name = some (some c)) :
    fs.lookup name = some (if name ∈ fs.names then some c else none) := by
  have hfilter := hfs.filter fun f => f.1 = name
  rw [filter_of_lookup_eq_some h] at hfilter
  unfold lookup
  split
  next heq =>
      have hnot : name ∉ fs.names := by
        intro hmem
        rcases List.mem_map.mp hmem with ⟨f, hf, hname⟩
        have hin : f ∈ fs.filter fun f => f.1 = name :=
          List.mem_filter.mpr ⟨hf, decide_eq_true hname⟩
        rw [heq] at hin
        cases hin
      rw [if_neg hnot]
  next f heq =>
      rw [heq, List.singleton_subperm_iff, List.mem_singleton] at hfilter
      have hf : f ∈ fs.filter fun f => f.1 = name := heq ▸ List.mem_singleton_self f
      have hmem : name ∈ fs.names :=
        List.mem_map.mpr ⟨f, (List.mem_filter.mp hf).1, of_decide_eq_true (List.mem_filter.mp hf).2⟩
      rw [if_pos hmem, hfilter]
  next hnil hsingle =>
      have hlength := hfilter.length_le
      cases hcons : fs.filter fun f => f.1 = name with
      | nil => exact absurd hcons hnil
      | cons f rest =>
          rw [hcons, List.length_cons, List.length_singleton] at hlength
          have hrest : rest = [] := List.eq_nil_of_length_eq_zero (by omega)
          exact absurd (hrest ▸ hcons) (hsingle f)

theorem field?_of_subperm {v default : value} {read : content -> Option value} (hfs : fs.Subperm gs)
    (hlookup : gs.lookup name = some (some c)) (hread : read c = some v) :
    fs.field? name default read = some (if name ∈ fs.names then v else default) := by
  unfold field?
  rw [lookup_of_subperm hfs hlookup]
  split
  · exact hread
  · rfl

end Fields
end Yaml
end LayeredPlot
