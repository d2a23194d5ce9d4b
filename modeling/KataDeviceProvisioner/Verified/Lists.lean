import Mathlib.Data.List.Forall2
import Mathlib.Data.List.Nodup
import Mathlib.Data.Set.List

/-!
# Lists cut up by a key

Facts about lists whose elements carry a key: what `flatMap` puts under one
key, and how filtering goes with prefixes.
-/

namespace KataDeviceProvisioner.Verified

variable {α β κ : Type}

/-- A list whose elements are related to those of another by a function is the
image of it. -/
theorem forall₂_map {f : α → β} {xs : List α} {ys : List β}
    (h : List.Forall₂ (fun x y => y = f x) xs ys) : ys = xs.map f := by
  induction h with
  | nil => rfl
  | cons hxy _ ih => rw [hxy, ih, List.map_cons]

theorem forall₂_of_mem_left {R : α → β → Prop} {xs : List α} {ys : List β}
    (h : List.Forall₂ R xs ys) {x : α} (hx : x ∈ xs) : ∃ y ∈ ys, R x y := by
  induction h with
  | nil => cases hx
  | @cons x' y xs ys hxy _ ih =>
      rcases List.mem_cons.mp hx with rfl | hxs
      · exact ⟨y, List.mem_cons_self, hxy⟩
      · obtain ⟨y', hy', hR⟩ := ih hxs
        exact ⟨y', List.mem_cons_of_mem y hy', hR⟩

theorem forall₂_of_mem_right {R : α → β → Prop} {xs : List α} {ys : List β}
    (h : List.Forall₂ R xs ys) {y : β} (hy : y ∈ ys) : ∃ x ∈ xs, R x y := by
  obtain ⟨x, hx, hR⟩ := forall₂_of_mem_left h.flip hy
  exact ⟨x, hx, hR⟩

theorem exists_forall₂_of_mem {R : α → β → Prop} {xs : List α} (h : ∀ x ∈ xs, ∃ y, R x y) :
    ∃ ys, List.Forall₂ R xs ys := by
  induction xs with
  | nil => exact ⟨[], .nil⟩
  | cons x xs ih =>
      obtain ⟨y, hy⟩ := h x List.mem_cons_self
      obtain ⟨ys, hys⟩ := ih fun x' hx' => h x' (List.mem_cons_of_mem x hx')
      exact ⟨y :: ys, .cons hy hys⟩

/-- A list of images is the image of a list. -/
theorem exists_map_of_forall_mem {f : α → β} {ys : List β}
    (h : ∀ y ∈ ys, ∃ x, f x = y) : ∃ xs : List α, xs.map f = ys := by
  have hrange : ys ∈ Set.range (List.map f) := by
    rw [Set.range_list_map]
    exact h
  exact hrange

/-- A loop of checks passes when every check does. -/
theorem forM_eq_ok_iff {ε : Type} {check : α → Except ε Unit} {xs : List α} :
    xs.forM check = .ok () ↔ ∀ x ∈ xs, check x = .ok () := by
  induction xs with
  | nil => simp [pure, Except.pure]
  | cons x xs ih =>
      rw [List.forall_mem_cons, ← ih, List.forM]
      cases check x with
      | error e => simp [bind, Except.bind]
      | ok _ => simp [bind, Except.bind]

theorem bind_eq_ok_iff {ε : Type} {x : Except ε α} {f : α → Except ε β} {b : β} :
    (x >>= f) = .ok b ↔ ∃ a, x = .ok a ∧ f a = .ok b := by
  cases x with
  | error e => simp [bind, Except.bind]
  | ok a => simp [bind, Except.bind]

/-- A pass over a list completes when every element does, and collects what each
comes to. -/
theorem mapM_eq_ok_iff {ε : Type} {f : α → Except ε β} {xs : List α} {ys : List β} :
    xs.mapM f = .ok ys ↔ List.Forall₂ (fun x y => f x = .ok y) xs ys := by
  induction xs generalizing ys with
  | nil =>
      rw [List.forall₂_nil_left_iff]
      exact ⟨fun h => (Except.ok.inj h).symm, fun h => by rw [h]; rfl⟩
  | cons x xs ih =>
      rw [List.mapM_cons]
      constructor
      · intro h
        cases hx : f x with
        | error e =>
            rw [hx] at h
            cases h
        | ok y =>
            cases hxs : xs.mapM f with
            | error e =>
                rw [hx, hxs] at h
                cases h
            | ok rest =>
                rw [hx, hxs] at h
                rw [← Except.ok.inj h]
                exact .cons hx (ih.mp hxs)
      · intro h
        cases h with
        | cons hx hxs =>
            rw [hx, ih.mpr hxs]
            rfl

theorem mapM_total {ε : Type} (f : α → Except ε β) (xs : List α)
    (h : ∀ x ∈ xs, ∃ y, f x = .ok y) : ∃ ys, xs.mapM f = .ok ys := by
  induction xs with
  | nil => exact ⟨[], rfl⟩
  | cons x xs ih =>
      obtain ⟨y, hy⟩ := h x List.mem_cons_self
      obtain ⟨ys, hys⟩ := ih fun z hz => h z (List.mem_cons_of_mem x hz)
      exact ⟨y :: ys, mapM_eq_ok_iff.mpr (.cons hy (mapM_eq_ok_iff.mp hys))⟩

/-- The one element of a list that a predicate holds of. -/
theorem filter_eq_singleton {p : α → Bool} {xs : List α} {a : α} (hnodup : xs.Nodup)
    (ha : a ∈ xs) (h : ∀ x ∈ xs, p x = true ↔ x = a) : xs.filter p = [a] := by
  induction xs with
  | nil => cases ha
  | cons x xs ih =>
      obtain ⟨hx, hxs⟩ := List.nodup_cons.mp hnodup
      have hrest : ∀ y ∈ xs, p y = true ↔ y = a := fun y hy => h y (List.mem_cons_of_mem x hy)
      rcases List.mem_cons.mp ha with rfl | ha
      · rw [List.filter_cons_of_pos ((h a List.mem_cons_self).mpr rfl),
          List.filter_eq_nil_iff.mpr]
        intro y hy hpy
        exact hx ((hrest y hy).mp hpy ▸ hy)
      · have hne : x ≠ a := fun heq => hx (heq ▸ ha)
        rw [List.filter_cons_of_neg fun hpx => hne ((h x List.mem_cons_self).mp hpx),
          ih hxs ha hrest]

/-- Elements that contribute nothing can be dropped beforehand. -/
theorem flatMap_filter_of_eq_nil {f : α → List β} {p : α → Bool} {xs : List α}
    (h : ∀ x ∈ xs, p x = false → f x = []) : (xs.filter p).flatMap f = xs.flatMap f := by
  induction xs with
  | nil => rfl
  | cons x xs ih =>
      have hxs := ih fun y hy => h y (List.mem_cons_of_mem x hy)
      by_cases hp : p x = true
      · rw [List.filter_cons_of_pos hp, List.flatMap_cons, List.flatMap_cons, hxs]
      · have hx : f x = [] := h x List.mem_cons_self (by simpa using hp)
        rw [List.filter_cons_of_neg hp, List.flatMap_cons, hx, List.nil_append, hxs]

/-- A fold whose steps add the images of some of the elements adds those of all
of them. -/
theorem foldl_adds {δ : Type} {part : δ → List β} {step : δ → α → δ} {p : α → Bool} {f : α → β}
    (h : ∀ d x, part (step d x) = part d ++ if p x then [f x] else []) (xs : List α) (d : δ) :
    part (xs.foldl step d) = part d ++ (xs.filter p).map f := by
  induction xs generalizing d with
  | nil => simp
  | cons x xs ih =>
      rw [List.foldl_cons, ih, h]
      by_cases hp : p x = true
      · simp [hp]
      · simp [hp]

/-- Where only one element can be found, it does not matter which is found first. -/
theorem any_find? {p q : α → Bool} {xs : List α}
    (hone : ∀ x ∈ xs, ∀ y ∈ xs, p x = true → p y = true → x = y) :
    (xs.find? p).any q = true ↔ ∃ x ∈ xs, p x = true ∧ q x = true := by
  constructor
  · intro h
    obtain ⟨x, hx, hq⟩ := Option.any_eq_true _ _ |>.mp h
    exact ⟨x, List.mem_of_find?_eq_some hx, List.find?_some hx, hq⟩
  · intro ⟨x, hx, hp, hq⟩
    obtain ⟨y, hy⟩ := Option.isSome_iff_exists.mp (List.find?_isSome.mpr ⟨x, hx, hp⟩)
    have heq : y = x := hone y (List.mem_of_find?_eq_some hy) x hx (List.find?_some hy) hp
    rw [hy, heq]
    exact hq

/-- What stands under a key is what is looked up for it. -/
theorem lookup_of_nodup [DecidableEq κ] {xs : List (κ × β)} (hnodup : (xs.map (·.1)).Nodup)
    {k : κ} {v : β} (hmem : (k, v) ∈ xs) : xs.lookup k = some v := by
  induction xs with
  | nil => cases hmem
  | cons x xs ih =>
      obtain ⟨hx, htail⟩ := List.nodup_cons.mp hnodup
      obtain ⟨k', v'⟩ := x
      rcases List.mem_cons.mp hmem with heq | hxs
      · obtain ⟨rfl, rfl⟩ := Prod.mk.inj heq
        exact List.lookup_cons_self
      · have hne : k ≠ k' := by
          intro heq
          subst heq
          exact hx (List.mem_map.mpr ⟨(k, v), hxs, rfl⟩)
        rw [List.lookup_cons, beq_eq_false_iff_ne.mpr hne]
        exact ih htail hxs

/-- In a list that gives each value once, what gives a value is determined. -/
theorem eq_of_nodup_filterMap {f : α → Option β} {xs : List α} (hnodup : (xs.filterMap f).Nodup)
    {x y : α} (hx : x ∈ xs) (hy : y ∈ xs) {b : β} (hfx : f x = some b) (hfy : f y = some b) :
    x = y := by
  induction xs with
  | nil => cases hx
  | cons z xs ih =>
      have hother : ∀ w ∈ xs, f w = some b → f z = some b → False := by
        intro w hw hfw hfz
        rw [List.filterMap_cons_some hfz] at hnodup
        exact (List.nodup_cons.mp hnodup).1 (List.mem_filterMap.mpr ⟨w, hw, hfw⟩)
      have htail : (xs.filterMap f).Nodup :=
        hnodup.sublist (List.Sublist.filterMap f (List.sublist_cons_self z xs))
      rcases List.mem_cons.mp hx with rfl | hxs
      · rcases List.mem_cons.mp hy with rfl | hys
        · rfl
        · exact (hother y hys hfy hfx).elim
      · rcases List.mem_cons.mp hy with rfl | hys
        · exact (hother x hxs hfx hfy).elim
        · exact ih htail hxs hys

section Key

variable [DecidableEq κ] {keyOf : β → κ} {f : α → List β}

private theorem filter_flatMap_of_not_mem {key : α → κ} {xs : List α} {k : κ}
    (hkey : ∀ x ∈ xs, ∀ y ∈ f x, keyOf y = key x) (hk : k ∉ xs.map key) :
    (xs.flatMap f).filter (fun y => keyOf y = k) = [] := by
  rw [List.filter_eq_nil_iff]
  intro y hy
  obtain ⟨x, hx, hyx⟩ := List.mem_flatMap.mp hy
  have hne : keyOf y ≠ k := by
    rw [hkey x hx y hyx]
    intro heq
    exact hk (heq ▸ List.mem_map_of_mem hx)
  simpa using hne

/-- Under the key of one element stands what that element contributed. -/
theorem filter_flatMap_of_nodup (key : α → κ) {xs : List α} (hnodup : (xs.map key).Nodup)
    (hkey : ∀ x ∈ xs, ∀ y ∈ f x, keyOf y = key x) {x : α} (hx : x ∈ xs) :
    (xs.flatMap f).filter (fun y => keyOf y = key x) = f x := by
  induction xs with
  | nil => simp at hx
  | cons z xs ih =>
      obtain ⟨hz, hnodup⟩ := List.nodup_cons.mp hnodup
      have htail : ∀ x ∈ xs, ∀ y ∈ f x, keyOf y = key x :=
        fun x hx => hkey x (List.mem_cons_of_mem z hx)
      rw [List.flatMap_cons, List.filter_append]
      by_cases hzx : x ∈ xs
      · have hnone : (f z).filter (fun y => keyOf y = key x) = [] := by
          rw [List.filter_eq_nil_iff]
          intro y hy
          have hne : key z ≠ key x := fun heq => hz (heq ▸ List.mem_map_of_mem hzx)
          simpa [hkey z List.mem_cons_self y hy] using hne
        rw [hnone, ih hnodup htail hzx, List.nil_append]
      · obtain rfl : x = z := by
          rcases List.mem_cons.mp hx with h | h
          · exact h
          · exact absurd h hzx
        have hall : (f x).filter (fun y => keyOf y = key x) = f x := by
          rw [List.filter_eq_self]
          intro y hy
          simpa using hkey x List.mem_cons_self y hy
        rw [hall, filter_flatMap_of_not_mem htail hz, List.append_nil]

end Key

end KataDeviceProvisioner.Verified
