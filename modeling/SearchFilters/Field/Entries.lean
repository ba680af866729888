/-!
# Field — Entries

Rows of entries under keys in which a key stands once.
-/

namespace SearchFilters

/-- A row with a value under a key: in place if the key is there, at the end if it is new. -/
def putEntry {α : Type} (row : List (String × α)) (key : String) (value : α) :
    List (String × α) :=
  if row.any fun e => e.1 == key then
    row.map fun e => if e.1 == key then (key, value) else e
  else row ++ [(key, value)]

/-- A row in which repeated keys are merged: each stands where it first stood, with its last
value. -/
def mergeEntries {α : Type} (row : List (String × α)) : List (String × α) :=
  row.foldl (fun r e => putEntry r e.1 e.2) []

/-- A value under a key of the row leaves the keys as they are; a new key goes to the end. -/
theorem map_fst_putEntry {α : Type} (row : List (String × α)) (key : String) (value : α) :
    (putEntry row key value).map Prod.fst =
      if key ∈ row.map Prod.fst then row.map Prod.fst else row.map Prod.fst ++ [key] := by
  unfold putEntry
  have mem : (row.any fun e => e.1 == key) = true ↔ key ∈ row.map Prod.fst := by
    simp only [List.any_eq_true, List.mem_map, beq_iff_eq]
  by_cases h : key ∈ row.map Prod.fst
  · rw [if_pos h, if_pos (mem.2 h), List.map_map]
    apply List.map_congr_left
    intro e _
    by_cases he : e.1 = key <;> simp [he]
  · rw [if_neg h, if_neg (mt mem.1 h)]
    simp

/-- So no key comes to stand twice. -/
theorem nodup_putEntry {α : Type} {row : List (String × α)} {key : String} {value : α}
    (h : (row.map Prod.fst).Nodup) : ((putEntry row key value).map Prod.fst).Nodup := by
  rw [map_fst_putEntry]
  split
  · exact h
  · next hk => exact List.nodup_append.2 ⟨h, by simp, by grind⟩

/-- No key stands twice in a merged row. -/
theorem nodup_mergeEntries {α : Type} (row : List (String × α)) :
    ((mergeEntries row).map Prod.fst).Nodup := by
  unfold mergeEntries
  suffices h : ∀ start : List (String × α), (start.map Prod.fst).Nodup →
      ((row.foldl (fun r e => putEntry r e.1 e.2) start).map Prod.fst).Nodup from h [] (by simp)
  induction row with
  | nil => exact fun _ h => h
  | cons e row ih => exact fun start h => ih _ (nodup_putEntry h)

/-- A row with a value put under a key has that value there, and is unchanged elsewhere. -/
theorem find?_putEntry {α : Type} (row : List (String × α)) (key other : String) (value : α) :
    ((putEntry row key value).find? fun e => e.1 == other) =
      if other = key then some (key, value) else row.find? fun e => e.1 == other := by
  unfold putEntry
  split
  · next h =>
    rw [List.find?_map]
    by_cases hk : other = key
    · subst hk
      have same : ((fun e : String × α => e.1 == other) ∘
          fun e => if e.1 == other then (other, value) else e) = fun e => e.1 == other := by
        funext e
        by_cases he : e.1 = other <;> simp [he]
      rw [same, if_pos rfl]
      cases hf : row.find? fun e => e.1 == other with
      | none =>
        obtain ⟨e, hm, he⟩ := List.any_eq_true.mp h
        exact absurd he (List.find?_eq_none.mp hf e hm)
      | some e =>
        have he : e.1 = other := by simpa using List.find?_some hf
        simp [he]
    · have same : ((fun e : String × α => e.1 == other) ∘
          fun e => if e.1 == key then (key, value) else e) = fun e => e.1 == other := by
        funext e
        by_cases he : e.1 = key <;> simp [he]
      rw [same, if_neg hk]
      cases hf : row.find? fun e => e.1 == other with
      | none => rfl
      | some e =>
        have he : e.1 = other := by simpa using List.find?_some hf
        have hne : e.1 ≠ key := he ▸ hk
        simp [hne]
  · next h =>
    have absent : ∀ e ∈ row, e.1 ≠ key := fun e hm he =>
      h (List.any_eq_true.mpr ⟨e, hm, by simpa using he⟩)
    rw [List.find?_append]
    by_cases hk : other = key
    · subst hk
      rw [List.find?_eq_none.mpr fun e hm => by simpa using absent e hm]
      simp
    · have hkey : (key == other) = false := by simpa using Ne.symm hk
      simp [hkey, hk]

end SearchFilters
