import Mathlib.Data.List.Induction

/-!
# Histories

What has happened is a list that grows at its end, and what it means is told by cutting it before
and after one of its items. `split_append` says where a grown list can be cut, and
`exists_last_split` cuts a list at the last item of a kind.
-/

namespace LanguageClient

variable {α : Type} {items before later : List α} {here final : α}

/-- A list that ends in an item splits before the item, or at it. -/
theorem split_append (split : items ++ [final] = before ++ here :: later) :
    (later = [] ∧ here = final ∧ before = items) ∨
      ∃ rest, later = rest ++ [final] ∧ items = before ++ here :: rest := by
  rcases List.eq_nil_or_concat later with rfl | ⟨rest, other, rfl⟩
  · have same := List.append_inj' split rfl
    exact .inl ⟨rfl, (List.singleton_inj.mp same.2).symm, same.1.symm⟩
  · rw [List.concat_eq_append, ← List.cons_append, ← List.append_assoc] at split
    have same := List.append_inj' split rfl
    rw [List.concat_eq_append, List.singleton_inj.mp same.2]
    exact .inr ⟨rest, rfl, same.1⟩

/-- What holds of every item with the items before it holds of a list that grows by one item if it
holds of the list and of the new item. -/
theorem forall_split_append {holds : List α → α → Prop} :
    (∀ before item after, items ++ [final] = before ++ item :: after → holds before item) ↔
      (∀ before item after, items = before ++ item :: after → holds before item) ∧
        holds items final := by
  constructor
  · intro all
    refine ⟨?_, all items final [] rfl⟩
    rintro before item later rfl
    exact all before item (later ++ [final]) (by simp)
  · rintro ⟨all, lastly⟩ before item later split
    rcases split_append split with ⟨-, rfl, rfl⟩ | ⟨rest, rfl, whole⟩
    · exact lastly
    · exact all before item rest whole

/-- A list that has an item of a kind has a last one. -/
theorem exists_last_split {holds : α → Prop} (some : ∃ item ∈ items, holds item) :
    ∃ before item after, items = before ++ item :: after ∧ holds item ∧
      ∀ other ∈ after, ¬ holds other := by
  induction items using List.reverseRecOn with
  | nil => simp at some
  | append_singleton earlier final ih =>
    by_cases lastly : holds final
    · exact ⟨earlier, final, [], rfl, lastly, by simp⟩
    · have early : ∃ item ∈ earlier, holds item := by
        simpa [or_and_right, exists_or, lastly] using some
      obtain ⟨before, item, after, rfl, held, others⟩ := ih early
      refine ⟨before, item, after ++ [final], by simp, held, ?_⟩
      exact List.forall_mem_append.mpr ⟨others, List.forall_mem_singleton.mpr lastly⟩

end LanguageClient
