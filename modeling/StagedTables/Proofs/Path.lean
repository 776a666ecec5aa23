import StagedTables.FileStore

/-! # Tidy paths

A path and its tidy form lead to the same place: they have the same parts, and tidying once is
enough. -/
set_option autoImplicit false
namespace StagedTables

namespace Path

structure IsPlain (part : String) : Prop where
  whole : '/' ∉ part.toList
  ne_empty : part ≠ ""
  ne_dot : part ≠ "."

/-! ## Parts -/

theorem not_mem_of_mem_splitOn {separator : Char} {cs part : List Char}
    (listed : part ∈ cs.splitOn separator) : separator ∉ part := by
  induction cs generalizing part with
  | nil =>
    rw [List.splitOn_nil, List.mem_singleton] at listed
    rw [listed]
    exact List.not_mem_nil
  | cons c rest ih =>
    obtain ⟨first, others, split⟩ := List.exists_cons_of_ne_nil (List.splitOn_ne_nil separator rest)
    rw [List.splitOn_cons_eq_if_modifyHead] at listed
    by_cases same : c = separator
    · rw [if_pos (beq_iff_eq.mpr same)] at listed
      rcases List.mem_cons.mp listed with rfl | later
      · exact List.not_mem_nil
      · exact ih later
    · rw [if_neg (by simpa using same), split, List.modifyHead_cons] at listed
      rcases List.mem_cons.mp listed with rfl | later
      · refine List.not_mem_cons_of_ne_of_not_mem (Ne.symm same) (ih ?_)
        rw [split]
        exact List.mem_cons_self
      · refine ih ?_
        rw [split]
        exact List.mem_cons_of_mem _ later

theorem isPlain_of_mem_parts {path part : String} (listed : part ∈ parts path) : IsPlain part := by
  obtain ⟨split, kept⟩ := List.mem_filter.mp listed
  obtain ⟨cs, between, rfl⟩ := List.mem_map.mp split
  rw [Bool.and_eq_true, bne_iff_ne, bne_iff_ne] at kept
  refine ⟨?_, kept.1, kept.2⟩
  rw [String.toList_ofList]
  exact not_mem_of_mem_splitOn between

theorem parts_slash (path : String) : parts ("/" ++ path) = parts path := by
  have split : ("/" ++ path).toList.splitOn '/' = [] :: path.toList.splitOn '/' := by
    rw [String.toList_append]
    exact List.splitOn_append_cons_self_of_not_mem List.not_mem_nil path.toList
  unfold parts
  rw [split]
  rfl

def written (rooted : Bool) (given : List String) : String :=
  (if rooted then "/" else "") ++ "/".intercalate given

theorem render_eq (rooted : Bool) (given : List String) :
    render rooted given = if written rooted given = "" then "." else written rooted given := rfl

section Plain

variable {given : List String} (plain : ∀ part ∈ given, IsPlain part)
include plain

theorem parts_intercalate : parts ("/".intercalate given) = given := by
  by_cases none : given = []
  · rw [none]
    rfl
  have whole : ∀ cs ∈ given.map String.toList, '/' ∉ cs := by
    intro cs listed
    obtain ⟨part, member, rfl⟩ := List.mem_map.mp listed
    exact (plain part member).whole
  have split : ("/".intercalate given).toList.splitOn '/' = given.map String.toList := by
    rw [String.toList_intercalate]
    exact List.splitOn_intercalate '/' whole (by simpa using none)
  have texts : (given.map String.toList).map String.ofList = given := by simp
  unfold parts
  rw [split, texts, List.filter_eq_self]
  intro part member
  have kept := plain part member
  simp [kept.ne_empty, kept.ne_dot]

theorem parts_written (rooted : Bool) : parts (written rooted given) = given := by
  cases rooted with
  | true => exact (parts_slash _).trans (parts_intercalate plain)
  | false => simpa [written] using parts_intercalate plain

theorem parts_render (rooted : Bool) : parts (render rooted given) = given := by
  have same := parts_written plain rooted
  rw [render_eq]
  split
  · next empty =>
    rw [← same, empty]
    rfl
  · exact same

theorem isRooted_intercalate : isRooted ("/".intercalate given) = false := by
  cases given with
  | nil => rfl
  | cons first rest =>
    have isPlain := plain first List.mem_cons_self
    have nonempty : first.toList ≠ [] := by simpa using isPlain.ne_empty
    obtain ⟨c, more, chars⟩ := List.exists_cons_of_ne_nil nonempty
    have starts : ("/".intercalate (first :: rest)).toList.head? = some c := by
      cases rest with
      | nil => rw [String.intercalate_singleton, chars, List.head?_cons]
      | cons next others =>
        rw [String.intercalate_cons_cons, String.toList_append, String.toList_append, chars]
        rfl
    have other : c ≠ '/' := by
      rintro rfl
      refine isPlain.whole ?_
      rw [chars]
      exact List.mem_cons_self
    unfold isRooted
    rw [starts, beq_eq_false_iff_ne, ne_eq, Option.some.injEq]
    exact other

theorem isRooted_render (rooted : Bool) : isRooted (render rooted given) = rooted := by
  rw [render_eq]
  cases rooted with
  | true => simp [written, isRooted]
  | false =>
    split
    · rfl
    · simpa [written] using isRooted_intercalate plain

end Plain

/-! ## Tidying -/

theorem parts_tidy (path : String) : parts (tidy path) = parts path :=
  parts_render (fun _ => isPlain_of_mem_parts) _

theorem isRooted_tidy (path : String) : isRooted (tidy path) = isRooted path :=
  isRooted_render (fun _ => isPlain_of_mem_parts) _

theorem tidy_tidy (path : String) : tidy (tidy path) = tidy path := by
  rw [tidy, parts_tidy, isRooted_tidy, ← tidy]

theorem suffix_tidy (path : String) : suffix (tidy path) = suffix path := by
  rw [suffix, parts_tidy, ← suffix]

theorem tidy_ne_empty (path : String) : tidy path ≠ "" := by
  rw [tidy, render_eq]
  split
  · simp
  · assumption

end Path

namespace FileStore

theorem locate_tidy (files : FileStore) (path : String) :
    files.locate (Path.tidy path) = files.locate path := by
  unfold locate
  rw [Path.tidy_tidy, Path.parts_tidy, Path.isRooted_tidy]

theorem read_tidy (files : FileStore) (path : String) :
    files.read (Path.tidy path) = files.read path := by
  unfold read
  rw [locate_tidy, Path.tidy_tidy]

end FileStore
end StagedTables
