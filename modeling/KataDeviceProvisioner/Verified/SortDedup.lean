import Mathlib.Data.List.Sort
import Mathlib.Data.List.Destutter
import KataDeviceProvisioner.Verified.Lists

/-!
# Sorting a list and dropping adjacent repetitions

`xs.sort(); xs.dedup();` keeps one copy of each element: `dedup` only drops an
element equal to the one before it, which after sorting is every repetition.
-/

namespace KataDeviceProvisioner.Verified

variable {α β : Type} [LinearOrder α]

/-- `xs.sort(); xs.dedup();` -/
def sortDedup (xs : List α) : List α := (xs.insertionSort (· ≤ ·)).destutter (· ≠ ·)

theorem sortDedup_eq_dedup (xs : List α) :
    sortDedup xs = (xs.insertionSort (· ≤ ·)).dedup :=
  (List.pairwise_insertionSort (· ≤ ·) xs).destutter_eq_dedup

@[simp] theorem mem_sortDedup {xs : List α} {x : α} : x ∈ sortDedup xs ↔ x ∈ xs := by
  rw [sortDedup_eq_dedup, List.mem_dedup, List.mem_insertionSort]

theorem nodup_sortDedup (xs : List α) : (sortDedup xs).Nodup := by
  rw [sortDedup_eq_dedup]
  exact List.nodup_dedup _

theorem pairwise_lt_sortDedup (xs : List α) : (sortDedup xs).Pairwise (· < ·) := by
  have hle : (sortDedup xs).Pairwise (· ≤ ·) :=
    (List.pairwise_insertionSort (· ≤ ·) xs).sublist (List.destutter_sublist _ _)
  exact hle.and (nodup_sortDedup xs) |>.imp fun h => lt_of_le_of_ne h.1 h.2

/-- Neither the order nor the repetitions of the elements matter. -/
theorem sortDedup_congr {xs ys : List α} (h : ∀ x, x ∈ xs ↔ x ∈ ys) :
    sortDedup xs = sortDedup ys :=
  (pairwise_lt_sortDedup xs).eq_of_mem_iff (pairwise_lt_sortDedup ys) fun x => by
    rw [mem_sortDedup, mem_sortDedup]
    exact h x

/-- Dropping an element equal to the one before it loses no value, whether the
list is sorted or not. -/
theorem mem_destutter_ne {β : Type} [DecidableEq β] {x : β} {xs : List β} :
    x ∈ xs.destutter (· ≠ ·) ↔ x ∈ xs := by
  have hstep : ∀ (a : β) (rest : List β), x ∈ rest.destutter' (· ≠ ·) a ↔ x ∈ a :: rest := by
    intro a rest
    induction rest generalizing a with
    | nil => rw [List.destutter'_nil]
    | cons b rest ih =>
        by_cases hab : a = b
        · subst hab
          rw [List.destutter'_cons_neg _ (fun h => h rfl), ih]
          simp
        · rw [List.destutter'_cons_pos _ hab, List.mem_cons, ih]
          simp
  cases xs with
  | nil => simp
  | cons a rest => exact hstep a rest

/-- Sorting by a key that tells the elements apart is sorting the keys. -/
theorem map_sort_destutter {β : Type} [DecidableEq β] {r : β → β → Prop} [DecidableRel r]
    (key : β → α) (xs : List β) (hr : ∀ a b, r a b ↔ key a ≤ key b)
    (hinj : ∀ a ∈ xs, ∀ b ∈ xs, key a = key b → a = b) :
    ((xs.insertionSort r).destutter (· ≠ ·)).map key = sortDedup (xs.map key) := by
  have hsorted : (xs.insertionSort r).map key = (xs.map key).insertionSort (· ≤ ·) :=
    List.map_insertionSort _ _ key xs fun a _ b _ => hr a b
  unfold sortDedup
  rw [← hsorted]
  refine List.map_destutter fun a ha b hb => ?_
  rw [List.mem_insertionSort] at ha hb
  exact not_congr ⟨fun heq => congrArg key heq, hinj a ha b hb⟩

/-- Where writing tells the values apart, what is kept is one text for each of
them. -/
theorem exists_map_eq_sortDedup (write : β → α) (values : List β)
    (hinj : ∀ x ∈ values, ∀ y ∈ values, write x = write y → x = y) :
    ∃ kept : List β, kept.map write = sortDedup (values.map write) ∧ kept.Nodup ∧
      ∀ x, x ∈ kept ↔ x ∈ values := by
  have hwritten : ∀ text ∈ sortDedup (values.map write),
      ∃ x : {x // x ∈ values}, write x.val = text := by
    intro text htext
    obtain ⟨x, hx, heq⟩ := List.mem_map.mp (mem_sortDedup.mp htext)
    exact ⟨⟨x, hx⟩, heq⟩
  obtain ⟨kept, hkept⟩ := exists_map_of_forall_mem hwritten
  have hmap : (kept.map Subtype.val).map write = sortDedup (values.map write) := by
    rw [List.map_map]
    exact hkept
  refine ⟨kept.map Subtype.val, hmap, ?_, fun x => ?_⟩
  · have h := nodup_sortDedup (values.map write)
    rw [← hmap] at h
    exact h.of_map
  constructor
  · intro hx
    obtain ⟨y, _, rfl⟩ := List.mem_map.mp hx
    exact y.property
  · intro hx
    have htext : write x ∈ sortDedup (values.map write) :=
      mem_sortDedup.mpr (List.mem_map_of_mem hx)
    rw [← hmap] at htext
    obtain ⟨y, hy, heq⟩ := List.mem_map.mp htext
    obtain ⟨y', _, rfl⟩ := List.mem_map.mp hy
    rwa [← hinj y'.val y'.property x hx heq]

end KataDeviceProvisioner.Verified
