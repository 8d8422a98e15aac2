import DesignTokens.Proofs.SharedReport
import Mathlib.Data.List.Nodup
import Mathlib.Data.List.Perm.Subperm

/-! Maps that take entries one after another. Under each key the last entry gives the value and the first
one the place, so no entry is lost exactly where all keys are different. -/

namespace DesignTokens.Proofs.CollectedEntries
open SharedReport

variable {α : Type}

def collected (found made : Entries α) : Entries α :=
  made.foldl (fun found entry => found.put entry.1 entry.2) found

theorem get?_collected (found made : Entries α) (key : String) :
    (collected found made).get? key = (Entries.get? made.reverse key).or (found.get? key) := by
  induction made generalizing found with
  | nil => rfl
  | cons first rest ih =>
    have onward : collected found (first :: rest) = collected (found.put first.1 first.2) rest := rfl
    rw [onward, ih, List.reverse_cons, Entries.get?_append, Option.or_assoc, Entries.get?_cons]
    congr 1
    by_cases same : first.1 = key
    · subst same
      rw [if_pos rfl, Entries.get?_put_self]
      rfl
    · rw [if_neg same, Entries.get?_put_of_ne (Ne.symm same)]
      rfl

theorem mem_collected {found made : Entries α} {entry : String × α} (member : entry ∈ collected found made) :
    entry ∈ found ∨ entry ∈ made := by
  induction made generalizing found with
  | nil => exact .inl member
  | cons first rest ih =>
    have onward : entry ∈ collected (found.put first.1 first.2) rest := member
    rcases ih onward with before | later
    · rcases Entries.mem_put before with old | rfl
      · exact .inl old
      · exact .inr List.mem_cons_self
    · exact .inr (List.mem_cons_of_mem _ later)

theorem keys_put_eq_addNew (found : Entries α) (key : String) (value : α) :
    (found.put key value).keys = addNew found.keys key := by
  rw [Entries.keys_put, addNew]
  simp only [List.contains_iff_mem]

theorem keys_collected (found made : Entries α) :
    (collected found made).keys = made.keys.foldl addNew found.keys := by
  induction made generalizing found with
  | nil => rfl
  | cons first rest ih =>
    have onward : collected found (first :: rest) = collected (found.put first.1 first.2) rest := rfl
    rw [onward, ih, keys_put_eq_addNew]
    rfl

/-- Where all keys are different the entries stand behind one another. -/
theorem collected_fresh {found made : Entries α} (distinct : (found.keys ++ made.keys).Nodup) :
    collected found made = found ++ made := by
  induction made generalizing found with
  | nil => exact (List.append_nil found).symm
  | cons first rest ih =>
    have absent : first.1 ∉ found.keys := by
      intro present
      exact (List.nodup_append.mp distinct).2.2 first.1 present first.1 List.mem_cons_self rfl
    have onward : collected found (first :: rest) = collected (found ++ [first]) rest := by
      rw [← Entries.put_new absent]
      rfl
    rw [onward, ih, List.append_assoc, List.singleton_append]
    simpa [Entries.keys] using distinct

/-- A list without its repetitions is as long as the list only if there are none. -/
theorem length_eraseDups_iff (entries : List String) :
    entries.eraseDups.length = entries.length ↔ entries.Nodup := by
  have first_of_each : entries.foldl addNew [] = entries.eraseDups := foldl_addNew_eraseDups [] entries
  have distinct : entries.eraseDups.Nodup := first_of_each ▸ nodup_foldl_addNew List.nodup_nil entries
  constructor
  · intro same
    have covered : entries.eraseDups.Subperm entries :=
      List.subperm_of_subset distinct fun _ member => List.mem_eraseDups.mp member
    exact (covered.perm_of_length_le (Nat.le_of_eq same.symm)).nodup_iff.mp distinct
  · intro different
    exact ((List.perm_ext_iff_of_nodup distinct different).mpr fun _ => List.mem_eraseDups).length_eq

theorem keys_collected_nil (made : Entries α) : (collected [] made).keys = made.keys.eraseDups := by
  rw [keys_collected]
  exact foldl_addNew_eraseDups [] _

theorem length_collected_iff (made : Entries α) : (collected [] made).length = made.length ↔ made.keys.Nodup := by
  rw [← length_eraseDups_iff, ← keys_collected_nil, Entries.keys, List.length_map, Entries.keys, List.length_map]

end DesignTokens.Proofs.CollectedEntries
