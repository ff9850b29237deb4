import CaptureDesk.Str

/-!
# Tables in order of insertion

A table is the list of its entries.  A key stands at most once in it, where it was first put; a
later `put` under the same key changes the entry in place.  Answers show this order.
-/

namespace CaptureDesk

/-- Entries in the order in which their keys were first put. -/
abbrev Table (α : Type) := List (Str × α)

namespace Table

variable {α : Type}

/-- The entry under a key. -/
def get? (t : Table α) (key : Str) : Option α :=
  (t.find? fun entry => entry.1 == key).map (·.2)

/-- Whether a key has an entry. -/
def has (t : Table α) (key : Str) : Bool :=
  t.any fun entry => entry.1 == key

/-- Sets the entry under a key: in place when the key is there, at the end otherwise. -/
def put (t : Table α) (key : Str) (value : α) : Table α :=
  match t with
  | [] => [(key, value)]
  | entry :: rest =>
      if entry.1 == key then (key, value) :: rest else entry :: put rest key value

@[simp] theorem get?_nil (key : Str) : get? ([] : Table α) key = none := rfl

theorem get?_cons (entry : Str × α) (t : Table α) (key : Str) :
    get? (entry :: t) key = if entry.1 = key then some entry.2 else get? t key := by
  by_cases h : entry.1 = key <;> simp [get?, h]

/-- A key has an entry just if one is found under it. -/
theorem has_eq_isSome (t : Table α) (key : Str) : has t key = (get? t key).isSome := by
  induction t with
  | nil => rfl
  | cons entry t ih =>
      rw [get?_cons, has, List.any_cons, ← has, ih]
      by_cases h : entry.1 = key <;> simp [h]

/-- What is found is there. -/
theorem mem_of_get? {t : Table α} {key : Str} {value : α} (found : get? t key = some value) :
    (key, value) ∈ t := by
  obtain ⟨entry, there, same⟩ := Option.map_eq_some_iff.mp found
  have here : entry.1 = key := by simpa using List.find?_some there
  rw [← here, ← same]
  exact List.mem_of_find?_eq_some there

/-- What is found after a `put`. -/
theorem get?_put (t : Table α) (key other : Str) (value : α) :
    get? (put t key value) other = if key = other then some value else get? t other := by
  induction t with
  | nil => simp [put, get?_cons]
  | cons entry t ih =>
      by_cases h : entry.1 = key
      · by_cases k : key = other <;> simp [put, get?_cons, h, k]
      · by_cases k : key = other
        · subst k; simp [put, get?_cons, h, ih]
        · simp [put, get?_cons, h, ih, k]

/-- The entries after a `put` are the one that was put and some of those before. -/
theorem eq_or_mem_of_mem_put {t : Table α} {key : Str} {value : α} {entry : Str × α}
    (member : entry ∈ put t key value) : entry = (key, value) ∨ entry ∈ t := by
  induction t with
  | nil => exact Or.inl (List.mem_singleton.mp member)
  | cons first t ih =>
      unfold put at member
      split at member
      · exact (List.mem_cons.mp member).imp_right (List.mem_cons_of_mem first)
      · rcases List.mem_cons.mp member with rfl | member
        · exact Or.inr List.mem_cons_self
        · exact (ih member).imp_right (List.mem_cons_of_mem first)

/-- A `put` keeps the keys in their order, and a new key comes last. -/
theorem keys_put (t : Table α) (key : Str) (value : α) :
    (put t key value).map (·.1) =
      if key ∈ t.map (·.1) then t.map (·.1) else t.map (·.1) ++ [key] := by
  induction t with
  | nil => rfl
  | cons entry t ih =>
      by_cases h : entry.1 = key
      · simp [put, h]
      · have : ¬key = entry.1 := fun e => h e.symm
        simp only [put, beq_iff_eq, h, if_false, List.map_cons, ih, List.mem_cons, this, false_or]
        split <;> simp

section NotMem

variable {t : Table α} {key : Str}

theorem get?_of_notMem (fresh : key ∉ t.map (·.1)) : get? t key = none := by
  rw [get?, List.find?_eq_none.mpr, Option.map_none]
  intro entry member
  have other : entry.1 ≠ key := fun same => fresh (same ▸ List.mem_map_of_mem member)
  simpa using other

/-- An entry under a new key comes last. -/
theorem put_of_notMem (fresh : key ∉ t.map (·.1)) (value : α) :
    put t key value = t ++ [(key, value)] := by
  induction t with
  | nil => rfl
  | cons entry t ih =>
      rw [List.map_cons, List.mem_cons, not_or] at fresh
      have other : (entry.1 == key) = false := beq_false_of_ne (Ne.symm fresh.1)
      rw [put, if_neg (by simp [other]), ih fresh.2]
      rfl

/-- The entry that was put last is found. -/
theorem get?_concat (fresh : key ∉ t.map (·.1)) (value : α) :
    get? (t ++ [(key, value)]) key = some value := by
  rw [← put_of_notMem fresh, get?_put, if_pos rfl]

/-- The entry that was put last is changed in place. -/
theorem put_concat (fresh : key ∉ t.map (·.1)) (old value : α) :
    put (t ++ [(key, old)]) key value = t ++ [(key, value)] := by
  induction t with
  | nil => simp [put]
  | cons entry t ih =>
      rw [List.map_cons, List.mem_cons, not_or] at fresh
      have other : (entry.1 == key) = false := beq_false_of_ne (Ne.symm fresh.1)
      rw [List.cons_append, put, if_neg (by simp [other]), ih fresh.2]
      rfl

/-- When no key is there twice, a key does not stand before its entry. -/
theorem notMem_of_nodup {rest : Table α} {value : α}
    (distinct : ((t ++ (key, value) :: rest).map (·.1)).Nodup) : key ∉ t.map (·.1) := by
  rw [List.map_append, List.map_cons, List.nodup_append] at distinct
  exact fun member => distinct.2.2 key member key List.mem_cons_self rfl

end NotMem

/-- When no key is there twice, what is there is found. -/
theorem get?_of_mem {t : Table α} {key : Str} {value : α} (distinct : (t.map (·.1)).Nodup)
    (there : (key, value) ∈ t) : get? t key = some value := by
  induction t with
  | nil => cases there
  | cons entry t ih =>
      rw [List.map_cons, List.nodup_cons] at distinct
      rw [get?_cons]
      rcases List.mem_cons.mp there with rfl | there
      · rw [if_pos rfl]
      · have apart : entry.1 ≠ key := fun same => distinct.1 (same ▸ List.mem_map_of_mem there)
        rw [if_neg apart, ih distinct.2 there]

end Table

end CaptureDesk
