import LanguageClient.Json.Basic
import Mathlib.Data.List.Nodup
import Mathlib.Data.List.Perm.Basic

/-!
# The entries of objects

Entries that are arranged stand in the order of their keys, and entries with different keys are
all kept. So what stands under a key does not depend on the order in which entries are written.
-/

namespace LanguageClient.Json

/-- Entries stand in the order of their keys, each key once. -/
def Ordered (entries : List (String × Json)) : Prop :=
  entries.Pairwise fun first second => first.1 < second.1

variable {key : String} {value : Json} {entries others : List (String × Json)}

/-- Where a value was put, an entry is the new one or an old one. -/
theorem mem_place {entry : String × Json} (member : entry ∈ place key value entries) :
    entry = (key, value) ∨ entry ∈ entries := by
  induction entries with
  | nil => exact .inl (List.mem_singleton.mp member)
  | cons first rest ih =>
    simp only [place] at member
    split at member
    · exact List.mem_cons.mp member
    · split at member
      · rcases List.mem_cons.mp member with here | later
        · exact .inl here
        · exact .inr (List.mem_cons_of_mem _ later)
      · rcases List.mem_cons.mp member with here | later
        · exact .inr (here ▸ List.mem_cons_self)
        · rcases ih later with placed | old
          · exact .inl placed
          · exact .inr (List.mem_cons_of_mem _ old)

/-- Where many values were put, an entry is one of them or an old one. -/
theorem mem_foldl_place {entry : String × Json} {placed : List (String × Json)}
    (member : entry ∈ entries.foldl (fun placed entry => place entry.1 entry.2 placed) placed) :
    entry ∈ placed ∨ entry ∈ entries := by
  induction entries generalizing placed with
  | nil => exact .inl member
  | cons first rest ih =>
    rcases ih member with before | later
    · rcases mem_place before with rfl | old
      · exact .inr List.mem_cons_self
      · exact .inl old
    · exact .inr (List.mem_cons_of_mem _ later)

/-- Only entries that were there are arranged. -/
theorem mem_arrange {entry : String × Json} (member : entry ∈ arrange entries) :
    entry ∈ entries :=
  (mem_foldl_place member).resolve_left List.not_mem_nil

/-- An entry that is placed finds its place in the order. -/
theorem ordered_place (key : String) (value : Json) (ordered : Ordered entries) :
    Ordered (place key value entries) := by
  induction entries with
  | nil => exact List.pairwise_singleton _ _
  | cons first rest ih =>
    obtain ⟨least, tail⟩ := List.pairwise_cons.mp ordered
    simp only [place]
    split
    · rename_i before
      refine List.pairwise_cons.mpr ⟨?_, ordered⟩
      intro entry member
      rcases List.mem_cons.mp member with rfl | later
      · exact before
      · exact String.lt_trans before (least entry later)
    · rename_i after
      split
      · rename_i same
        exact List.pairwise_cons.mpr ⟨fun entry later => same ▸ least entry later, tail⟩
      · rename_i different
        have behind : first.1 < key :=
          Std.lt_of_le_of_ne (String.not_lt.mp after) (Ne.symm different)
        refine List.pairwise_cons.mpr ⟨?_, ih tail⟩
        intro entry member
        rcases mem_place member with rfl | later
        · exact behind
        · exact least entry later

/-- An entry under a new key is placed among the others, which all stay. -/
theorem place_perm (fresh : key ∉ entries.map Prod.fst) :
    (place key value entries).Perm ((key, value) :: entries) := by
  induction entries with
  | nil => exact .refl _
  | cons first rest ih =>
    rw [List.map_cons, List.mem_cons, not_or] at fresh
    simp only [place]
    split
    · exact .refl _
    · rw [if_neg fresh.1]
      exact ((ih fresh.2).cons first).trans (.swap _ _ _)

/-- Placing entries under new keys one after the other keeps them all. -/
theorem foldl_place_perm (distinct : ((others ++ entries).map Prod.fst).Nodup) :
    (entries.foldl (fun placed entry => place entry.1 entry.2 placed) others).Perm
      (others ++ entries) := by
  induction entries generalizing others with
  | nil => rw [List.append_nil, List.foldl_nil]
  | cons first rest ih =>
    have middle : (others ++ first :: rest).Perm (first :: others ++ rest) := List.perm_middle
    have apart := (middle.map Prod.fst).nodup_iff.mp distinct
    have fresh : first.1 ∉ others.map Prod.fst := by
      intro member
      rw [List.cons_append, List.map_cons, List.nodup_cons, List.map_append] at apart
      exact apart.1 (List.mem_append_left _ member)
    have placed : (place first.1 first.2 others ++ rest).Perm (first :: others ++ rest) :=
      (place_perm fresh).append_right rest
    exact ((ih ((placed.map Prod.fst).nodup_iff.mpr apart)).trans placed).trans middle.symm

/-- Entries under different keys are all kept when they are arranged. -/
theorem arrange_perm (distinct : (entries.map Prod.fst).Nodup) : (arrange entries).Perm entries :=
  foldl_place_perm distinct

/-- Arranged entries stand in order. -/
theorem ordered_arrange (entries : List (String × Json)) : Ordered (arrange entries) := by
  have folded (placed : List (String × Json)) (ordered : Ordered placed) :
      Ordered (entries.foldl (fun placed entry => place entry.1 entry.2 placed) placed) := by
    induction entries generalizing placed with
    | nil => exact ordered
    | cons first rest ih => exact ih _ (ordered_place first.1 first.2 ordered)
  exact folded [] .nil

/-- Entries in order have each key once. -/
theorem Ordered.nodup_keys (ordered : Ordered entries) : (entries.map Prod.fst).Nodup := by
  refine List.pairwise_map.mpr (ordered.imp ?_)
  intro first second before same
  rw [same] at before
  exact String.lt_irrefl _ before

/-- Entries in order are determined by which they are. -/
theorem Ordered.eq_of_perm (ordered : Ordered entries) (other : Ordered others)
    (same : entries.Perm others) : entries = others := by
  refine same.eq_of_pairwise ?_ ordered other
  intro first second _ _ before after
  exact absurd after (String.lt_asymm before)

/-- A value is missing if no entry has the key. -/
theorem entry?_eq_none_iff : entry? key entries = none ↔ key ∉ entries.map Prod.fst := by
  induction entries with
  | nil => simp [Json.entry?]
  | cons first rest ih =>
    by_cases here : first.1 = key
    · simp [Json.entry?, here]
    · simp [Json.entry?, here, ih, Ne.symm here]

/-- The first entry with the key has its value. -/
theorem entry?_cons (first : String × Json) :
    entry? key (first :: entries) = if first.1 = key then some first.2 else entry? key entries :=
  rfl

/-- A key is looked for among the first entries, and then among the others. -/
theorem entry?_append :
    entry? key (entries ++ others) = (Json.entry? key entries).or (Json.entry? key others) := by
  induction entries with
  | nil => rfl
  | cons first rest ih =>
    simp only [List.cons_append, entry?]
    split
    · rfl
    · exact ih

/-- The value under a key is that of an entry. -/
theorem mem_of_found (found : entry? key entries = some value) : (key, value) ∈ entries := by
  induction entries with
  | nil => cases found
  | cons first rest ih =>
    simp only [Json.entry?] at found
    split at found
    · rename_i here
      obtain rfl := Option.some.inj found
      exact here ▸ List.mem_cons_self
    · exact List.mem_cons_of_mem _ (ih found)

/-- Where keys are different, what stands under a key is what was written there. -/
theorem entry?_eq_some_iff (distinct : (entries.map Prod.fst).Nodup) :
    entry? key entries = some value ↔ (key, value) ∈ entries := by
  refine ⟨mem_of_found, ?_⟩
  intro member
  induction entries with
  | nil => cases member
  | cons first rest ih =>
    rw [List.map_cons, List.nodup_cons] at distinct
    simp only [Json.entry?]
    rcases List.mem_cons.mp member with rfl | later
    · rw [if_pos rfl]
    · have other : first.1 ≠ key := by
        rintro rfl
        exact distinct.1 (List.mem_map.mpr ⟨_, later, rfl⟩)
      rw [if_neg other]
      exact ih distinct.2 later

/-- Where keys are different, their order does not matter. -/
theorem entry?_perm (distinct : (entries.map Prod.fst).Nodup) (same : entries.Perm others) :
    entry? key entries = entry? key others := by
  have apart := (same.map Prod.fst).nodup_iff.mp distinct
  ext value
  rw [Json.entry?_eq_some_iff distinct, entry?_eq_some_iff apart]
  exact same.mem_iff

/-- An object has under a key what its entries, with different keys, have there. -/
theorem get?_object (distinct : (entries.map Prod.fst).Nodup) :
    (object entries).get? key = entry? key entries :=
  (entry?_perm distinct (arrange_perm distinct).symm).symm

end LanguageClient.Json
