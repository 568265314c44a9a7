import Mathlib

namespace Filled

variable {α κ β : Type*} [Ord κ]

/-- Every item's value under its key. -/
def fill (key : α → κ) (value : α → β) (items : List α) : Std.TreeMap κ β :=
  items.foldl (fun map item => map.insert (key item) (value item)) ∅

/-- Under each key, what `step` makes of the items with that key. -/
def gather (key : α → κ) (step : β → α → β) (start : β) (items : List α) : Std.TreeMap κ β :=
  items.foldl (fun map item => map.alter (key item) fun old => some (step (old.getD start) item)) ∅

/-- The key of an item says its value. -/
def Determines (key : α → κ) (value : α → β) (items : List α) : Prop :=
  ∀ item ∈ items, ∀ other ∈ items, key item = key other → value item = value other

variable {key : α → κ} {value : α → β} {step : β → α → β} {start : β}

theorem fill_append (items : List α) (item : α) :
    fill key value (items ++ [item]) = (fill key value items).insert (key item) (value item) := by
  rw [fill, List.foldl_append]
  rfl

theorem gather_append (items : List α) (item : α) :
    gather key step start (items ++ [item]) =
      (gather key step start items).alter (key item) fun old =>
        some (step (old.getD start) item) := by
  rw [gather, List.foldl_append]
  rfl

variable [Std.TransOrd κ]

theorem fill_append_getElem? (items : List α) (item : α) :
    (fill key value (items ++ [item]))[key item]? = some (value item) := by
  rw [fill_append, Std.TreeMap.getElem?_insert_self]

variable [Std.LawfulEqOrd κ]

theorem exists_of_fill {items : List α} {k : κ} {v : β} (h : (fill key value items)[k]? = some v) :
    ∃ item ∈ items, key item = k ∧ value item = v := by
  induction items using List.reverseRecOn with
  | nil => simp [fill] at h
  | append_singleton items item ih =>
    rw [fill_append, Std.TreeMap.getElem?_insert] at h
    split_ifs at h with hkey
    · exact ⟨item, by simp, Std.LawfulEqCmp.eq_of_compare hkey, Option.some.inj h⟩
    · obtain ⟨found, hfound, hparts⟩ := ih h
      exact ⟨found, List.mem_append_left _ hfound, hparts⟩

theorem exists_fill_of_mem {items : List α} {item : α} (h : item ∈ items) :
    ∃ v, (fill key value items)[key item]? = some v := by
  induction items using List.reverseRecOn with
  | nil => cases h
  | append_singleton items last ih =>
    rw [fill_append, Std.TreeMap.getElem?_insert]
    split_ifs with hkey
    · exact ⟨value last, rfl⟩
    · rcases List.mem_append.mp h with hold | hlast
      · exact ih hold
      · rw [List.mem_singleton.mp hlast] at hkey
        exact absurd Std.ReflCmp.compare_self hkey

theorem Determines.fill_iff {items : List α} (h : Determines key value items) {k : κ} {v : β} :
    (fill key value items)[k]? = some v ↔ ∃ item ∈ items, key item = k ∧ value item = v := by
  refine ⟨exists_of_fill, ?_⟩
  rintro ⟨item, hitem, rfl, rfl⟩
  obtain ⟨found, hfound⟩ : ∃ v, (fill key value items)[key item]? = some v :=
    exists_fill_of_mem hitem
  obtain ⟨other, hother, hkey, rfl⟩ := exists_of_fill hfound
  rw [hfound, h other hother item hitem hkey]

theorem Determines.fill_perm {items items' : List α} (h : Determines key value items)
    (hperm : items.Perm items') (k : κ) : (fill key value items)[k]? =
    (fill key value items')[k]? := by
  have h' : Determines key value items' := fun item hitem other hother =>
    h item (hperm.mem_iff.mpr hitem) other (hperm.mem_iff.mpr hother)
  apply Option.ext
  intro v
  rw [h.fill_iff, h'.fill_iff]
  simp only [hperm.mem_iff]

variable [DecidableEq κ]

theorem gather_getElem? (items : List α) (k : κ) :
    (gather key step start items)[k]? =
      match items.filter (key · = k) with
      | [] => none
      | found => some (found.foldl step start) := by
  induction items using List.reverseRecOn with
  | nil => simp [gather]
  | append_singleton items item ih =>
    rw [gather_append, Std.TreeMap.getElem?_alter, List.filter_append]
    by_cases hkey : key item = k
    · subst hkey
      rw [if_pos Std.ReflCmp.compare_self, ih]
      cases items.filter (key · = key item) with
      | nil => simp
      | cons first rest => simp
    · rw [if_neg fun h => hkey (Std.LawfulEqCmp.eq_of_compare h), ih]
      simp [hkey]

end Filled
