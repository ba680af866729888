import Mathlib.Tactic.SplitIfs
import SearchFilters.Storage.Files

/-!
# Proofs — Storage — Files

Which places are files and which are directories, and what writing a file changes of it.

Files are kept in a row of their own, and directories are not kept but read off: a place is a directory
when it is no file and begins a known place (`isDirectory_iff`).  So whatever is added, a file or a
directory, makes directories of the places that it begins with, and of no others, and no place ceases
to be one (`isDirectory_put`, `isDirectory_make`).  What no addition may do is to put a file where a
directory stands; writing is not allowed there (`ne_of_writable`).
-/

namespace SearchFilters.Files

variable {fs : Files} {p q : Path} {text : String}

theorem isFile_eq_false_iff : fs.isFile p = false ↔ fs.get? p = none := by
  rw [isFile, Option.isSome_eq_false_iff, Option.isNone_iff_eq_none]

/-- A place is empty if it is neither a file nor a directory. -/
theorem has_eq_false_iff : fs.has p = false ↔ fs.get? p = none ∧ fs.isDirectory p = false := by
  rw [has, Bool.or_eq_false_iff, isFile_eq_false_iff]

/-- A file is no directory. -/
theorem isDirectory_of_get? {f : File} (h : fs.get? p = some f) : fs.isDirectory p = false := by
  rw [isDirectory, isFile, h]
  rfl

/-- A directory is a place that is no file, on the way to something that is there. -/
theorem isDirectory_iff :
    fs.isDirectory p = true ↔ fs.get? p = none ∧
      ∃ q, (q ∈ [] :: fs.directories ∨ q ∈ fs.files.map Prod.fst) ∧ p <+: q := by
  rw [isDirectory, Bool.and_eq_true, Bool.not_eq_true', isFile_eq_false_iff, Bool.or_eq_true,
    List.any_eq_true, List.any_eq_true]
  simp only [List.isPrefixOf_iff_prefix, List.mem_map]
  constructor
  · rintro ⟨hp, ⟨q, hq, h⟩ | ⟨e, he, h⟩⟩
    · exact ⟨hp, q, .inl hq, h⟩
    · exact ⟨hp, e.1, .inr ⟨e, he, rfl⟩, h⟩
  · rintro ⟨hp, q, hq | ⟨e, he, rfl⟩, h⟩
    · exact ⟨hp, .inl ⟨q, hq, h⟩⟩
    · exact ⟨hp, .inr ⟨e, he, h⟩⟩

theorem mem_put :
    q ∈ (fs.put p text).files.map Prod.fst ↔ q = p ∨ q ∈ fs.files.map Prod.fst := by
  simp only [put, List.map_cons, List.mem_cons, List.mem_map, List.mem_filter, bne_iff_ne]
  constructor
  · rintro (rfl | ⟨e, ⟨he, -⟩, rfl⟩)
    · exact .inl rfl
    · exact .inr ⟨e, he, rfl⟩
  · rintro (rfl | ⟨e, he, rfl⟩)
    · exact .inl rfl
    · by_cases h : e.1 = p
      · exact .inl h
      · exact .inr ⟨e, ⟨he, h⟩, rfl⟩

/-- Writing a file makes directories of the places on the way to it. -/
theorem isDirectory_put (h : p ≠ q) :
    (fs.put q text).isDirectory p = true ↔
      fs.isDirectory p = true ∨ fs.get? p = none ∧ p <+: q := by
  rw [isDirectory_iff, isDirectory_iff, get?_put, if_neg h]
  constructor
  · rintro ⟨hp, q', hq | hq, hpre⟩
    · exact .inl ⟨hp, q', .inl hq, hpre⟩
    · rcases mem_put.mp hq with rfl | hq
      · exact .inr ⟨hp, hpre⟩
      · exact .inl ⟨hp, q', .inr hq, hpre⟩
  · rintro (⟨hp, q', hq | hq, hpre⟩ | ⟨hp, hpre⟩)
    · exact ⟨hp, q', .inl hq, hpre⟩
    · exact ⟨hp, q', .inr (mem_put.mpr (.inr hq)), hpre⟩
    · exact ⟨hp, q, .inr (mem_put.mpr (.inl rfl)), hpre⟩

/-- Making directories leaves all files as they are. -/
theorem get?_make : (fs.make q).get? p = fs.get? p := rfl

/-- Making a directory makes directories of the places on the way to it, and of itself. -/
theorem isDirectory_make :
    (fs.make q).isDirectory p = true ↔
      fs.isDirectory p = true ∨ fs.get? p = none ∧ p <+: q := by
  rw [isDirectory_iff, isDirectory_iff, get?_make]
  simp only [make, List.mem_cons]
  constructor
  · rintro ⟨hp, q', (hq | rfl | hq) | hq, hpre⟩
    · exact .inl ⟨hp, q', .inl (.inl hq), hpre⟩
    · exact .inr ⟨hp, hpre⟩
    · exact .inl ⟨hp, q', .inl (.inr hq), hpre⟩
    · exact .inl ⟨hp, q', .inr hq, hpre⟩
  · rintro (⟨hp, q', (hq | hq) | hq, hpre⟩ | ⟨hp, hpre⟩)
    · exact ⟨hp, q', .inl (.inl hq), hpre⟩
    · exact ⟨hp, q', .inl (.inr (.inr hq)), hpre⟩
    · exact ⟨hp, q', .inr hq, hpre⟩
    · exact ⟨hp, q, .inl (.inr (.inl rfl)), hpre⟩

/-- No file can be written where a directory stands. -/
theorem ne_of_writable (h : fs.writeFault? q = none)
    (hd : fs.isDirectory p = true) : p ≠ q := by
  rintro rfl
  unfold writeFault? at h
  dsimp only at h
  split_ifs at h

/-- The root is not written to. -/
theorem ne_nil_of_writable (h : fs.writeFault? q = none) : q ≠ [] := by
  rintro rfl
  cases hf : fs.isFile [] with
  | true => simp [writeFault?, hf] at h
  | false => exact ne_of_writable h (isDirectory_iff.mpr ⟨isFile_eq_false_iff.mp hf, [],
      .inl (List.mem_cons_self ..), List.nil_prefix⟩) rfl

/-- The directories that a refused write leaves lie on the way to its place. -/
theorem prefix_of_directory {d : Path} (h : fs.writeFault? q = none) (hindrance : Hindrance)
    (hd : d <+: hindrance.directory q) : d <+: q ∧ d ≠ q := by
  have whole : hindrance.directory q <+: q.dropLast := List.take_prefix ..
  have way := hd.trans whole
  refine ⟨way.trans (List.dropLast_prefix q), ?_⟩
  rintro rfl
  have := way.length_le
  rw [List.length_dropLast] at this
  have := List.length_pos_iff.mpr (ne_nil_of_writable h)
  omega

end SearchFilters.Files
