import Mathlib.Data.List.AList

/-!
# Copies that stop midway

A directory maps paths to contents.  `copy` writes files into one, each over what stood there
before.  A copy that stops leaves some of the files whole, and of the next one perhaps a part:
the lists `written` with `Interrupted files written`.  What stands in the directory then is
what the copy of those would be.

Where the files are copied in two groups, a copy that stops has not got past the first, or has
copied all of it (`Interrupted.of_append`): the second group can tell that the first is there.
-/

universe u v

namespace Copying
variable {κ : Type u} {γ : Type v}

/-- A path with its contents. -/
abbrev File (κ : Type u) (γ : Type v) : Type (max u v) := Sigma fun _ : κ => List γ

abbrev Directory (κ : Type u) (γ : Type v) : Type (max u v) := AList fun _ : κ => List γ

/-- The files with the paths that `p` picks out. -/
def restrict (d : Directory κ γ) (p : κ → Bool) : Directory κ γ :=
  ⟨d.entries.filter fun file => p file.1, d.nodupKeys.sublist List.filter_sublist⟩

/-- A copy of `files` may stop when it has copied `written`. -/
inductive Interrupted : List (File κ γ) → List (File κ γ) → Prop
  | here {files : List (File κ γ)} : Interrupted files []
  | within {file : File κ γ} {files : List (File κ γ)} (n : Nat) :
      Interrupted (file :: files) [⟨file.1, file.2.take n⟩]
  | later {file : File κ γ} {files written : List (File κ γ)} :
      Interrupted files written → Interrupted (file :: files) (file :: written)

theorem Interrupted.append_left {files written : List (File κ γ)} (copied : List (File κ γ))
    (h : Interrupted files written) : Interrupted (copied ++ files) (copied ++ written) := by
  induction copied with
  | nil => exact h
  | cons file copied ih => exact .later ih

theorem Interrupted.all (files : List (File κ γ)) : Interrupted files files := by
  induction files with
  | nil => exact .here
  | cons file files ih => exact .later ih

/-- A file that was begun is one of those to be copied, or the beginning of one. -/
theorem Interrupted.mem {files written : List (File κ γ)} (h : Interrupted files written)
    {file : File κ γ} (hfile : file ∈ written) :
    ∃ contents n, ⟨file.1, contents⟩ ∈ files ∧ file.2 = contents.take n := by
  induction h with
  | here => cases hfile
  | @within next files n =>
    rw [List.mem_singleton.mp hfile]
    exact ⟨next.2, n, List.mem_cons_self, rfl⟩
  | @later next files written _ ih =>
    rcases List.mem_cons.mp hfile with rfl | hfile
    · exact ⟨file.2, file.2.length, List.mem_cons_self, (List.take_length).symm⟩
    · obtain ⟨contents, n, hmem, hcut⟩ := ih hfile
      exact ⟨contents, n, List.mem_cons_of_mem _ hmem, hcut⟩

/-- Of two groups of files the second is begun only when the first has been copied. -/
theorem Interrupted.of_append {before after written : List (File κ γ)}
    (h : Interrupted (before ++ after) written) :
    Interrupted before written ∨
      ∃ rest, written = before ++ rest ∧ Interrupted after rest := by
  induction before generalizing written with
  | nil => exact Or.inr ⟨written, rfl, h⟩
  | cons file before ih =>
    cases h with
    | here => exact Or.inl .here
    | within n => exact Or.inl (.within n)
    | later h =>
      rcases ih h with hbefore | ⟨rest, rfl, hrest⟩
      · exact Or.inl (.later hbefore)
      · exact Or.inr ⟨rest, rfl, hrest⟩

variable [DecidableEq κ]

def copy (d : Directory κ γ) (files : List (File κ γ)) : Directory κ γ :=
  files.foldl (fun d file => d.insert file.1 file.2) d

theorem copy_append (d : Directory κ γ) (files more : List (File κ γ)) :
    copy d (files ++ more) = copy (copy d files) more :=
  List.foldl_append

/-- What a path holds after a copy was copied there, or the copy has left it alone. -/
theorem lookup_copy (d : Directory κ γ) (files : List (File κ γ)) (path : κ) :
    (∃ contents, ⟨path, contents⟩ ∈ files ∧ (copy d files).lookup path = some contents) ∨
    ((∀ file ∈ files, file.1 ≠ path) ∧ (copy d files).lookup path = d.lookup path) := by
  induction files generalizing d with
  | nil => exact Or.inr ⟨fun _ h => absurd h List.not_mem_nil, rfl⟩
  | cons file files ih =>
    rcases ih (d.insert file.1 file.2) with ⟨contents, hmem, hlookup⟩ | ⟨hother, hlookup⟩
    · exact Or.inl ⟨contents, List.mem_cons_of_mem _ hmem, hlookup⟩
    · by_cases hpath : file.1 = path
      · refine Or.inl ⟨file.2, ?_, ?_⟩
        · rw [← hpath]
          exact List.mem_cons_self
        · exact hlookup.trans (hpath ▸ AList.lookup_insert d)
      · refine Or.inr ⟨?_, hlookup.trans (AList.lookup_insert_ne (Ne.symm hpath))⟩
        intro other hmem
        rcases List.mem_cons.mp hmem with rfl | hmem
        · exact hpath
        · exact hother other hmem

/-- A directory copied into an empty one is there as it was. -/
theorem lookup_copy_entries (d : Directory κ γ) (path : κ) :
    (copy ∅ d.entries).lookup path = d.lookup path := by
  rcases lookup_copy ∅ d.entries path with ⟨contents, hmem, hlookup⟩ | ⟨hother, hlookup⟩
  · have hfile : d.lookup path = some contents := AList.mem_lookup_iff.mpr hmem
    exact hlookup.trans hfile.symm
  · rw [hlookup, AList.lookup_empty]
    cases hfile : d.lookup path with
    | none => rfl
    | some contents => exact absurd rfl (hother _ (AList.mem_lookup_iff.mp hfile))

theorem lookup_restrict (d : Directory κ γ) (p : κ → Bool) (path : κ) :
    (restrict d p).lookup path = if p path then d.lookup path else none := by
  refine Option.ext fun contents => ?_
  have hmem : contents ∈ (restrict d p).lookup path ↔ p path = true ∧ contents ∈ d.lookup path := by
    rw [AList.mem_lookup_iff, AList.mem_lookup_iff]
    exact List.mem_filter.trans and_comm
  by_cases hpath : p path = true
  · rw [if_pos hpath]
    exact hmem.trans (and_iff_right hpath)
  · rw [if_neg hpath]
    exact hmem.trans (iff_of_false (fun h => hpath h.1) nofun)

end Copying
