import Mathlib.Data.List.Basic

/-! # Interleavings

A list interleaves a family of lists when each of its members can be assigned to
one of them such that the members assigned to each are that list, in order.
-/

namespace Foundation

variable {ι α β : Type*} [DecidableEq ι]

/-- `whole` is an interleaving of `parts`. -/
def Interleaves (parts : ι → List α) (whole : List α) : Prop :=
  ∃ tagged : List (ι × α), tagged.map Prod.snd = whole ∧
    ∀ i, (tagged.filter fun entry => entry.1 = i).map Prod.snd = parts i

/-- Sorting the members of a list by a classification takes an interleaving
apart. -/
theorem interleaves_classified (source : β → ι) (value : β → α) (list : List β) :
    Interleaves (fun i => (list.filter fun member => source member = i).map value)
      (list.map value) := by
  refine ⟨list.map fun member => (source member, value member), ?_, fun i => ?_⟩
  · rw [List.map_map]
    rfl
  · rw [List.filter_map, List.map_map]
    rfl

/-- Each part keeps its order in the whole. -/
theorem Interleaves.sublist {parts : ι → List α} {whole : List α}
    (interleaves : Interleaves parts whole) (i : ι) : (parts i).Sublist whole := by
  obtain ⟨tagged, rfl, sorted⟩ := interleaves
  rw [← sorted i]
  exact List.filter_sublist.map Prod.snd

end Foundation
