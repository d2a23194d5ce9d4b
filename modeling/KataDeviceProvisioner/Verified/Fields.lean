import Mathlib.Data.List.Basic

/-!
# Fields run together

When a list that was put together from fields and separators can be taken apart
in one way only.  A field without the separator in it ends at the first one.  A
field that may have separators in it is told where it ends by a mark behind it
that has none, as long as fields do not differ in length by more than the mark
covers.
-/

namespace KataDeviceProvisioner.Verified

variable {α : Type} {sep : α} {a b d e x y : List α}

/-- A field without separators ends at the first one. -/
theorem free_field_inj (ha : sep ∉ a) (hb : sep ∉ b) (h : a ++ sep :: x = b ++ sep :: y) :
    a = b ∧ x = y := by
  induction a generalizing b with
  | nil =>
      cases b with
      | nil => exact ⟨rfl, (List.cons.inj h).2⟩
      | cons c b =>
          obtain ⟨hhead, _⟩ := List.cons.inj h
          exact absurd (hhead ▸ List.mem_cons_self) hb
  | cons c a ih =>
      cases b with
      | nil =>
          obtain ⟨hhead, _⟩ := List.cons.inj h
          exact absurd (hhead ▸ List.mem_cons_self) ha
      | cons c' b =>
          obtain ⟨rfl, htail⟩ := List.cons.inj h
          have hrest := ih (fun hmem => ha (List.mem_cons_of_mem _ hmem))
            (fun hmem => hb (List.mem_cons_of_mem _ hmem)) htail
          exact ⟨congrArg (List.cons c) hrest.1, hrest.2⟩

/-- The separator that ends the longer field would be in the mark behind the
shorter one. -/
theorem length_le_of_marked (hd : sep ∉ d) (hlen : b.length ≤ a.length + d.length)
    (h : a ++ sep :: (d ++ x) = b ++ sep :: y) : b.length ≤ a.length := by
  by_contra hlong
  obtain ⟨k, hk⟩ : ∃ k, b.length = a.length + 1 + k := ⟨b.length - a.length - 1, by omega⟩
  have hleft : (a ++ sep :: (d ++ x))[b.length]? = d[k]? := by
    rw [List.getElem?_append_right (by omega), hk,
      show a.length + 1 + k - a.length = k + 1 by omega, List.getElem?_cons_succ,
      List.getElem?_append_left (by omega)]
  have hright : (b ++ sep :: y)[b.length]? = some sep := by
    rw [List.getElem?_append_right (Nat.le_refl _), Nat.sub_self, List.getElem?_cons_zero]
  rw [h, hright] at hleft
  exact hd (List.mem_of_getElem? hleft.symm)

/-- A field is told from what follows by a mark without separators. -/
theorem marked_field_inj (hd : sep ∉ d) (he : sep ∉ e) (hmark : d.length = e.length)
    (hlong : b.length ≤ a.length + d.length) (hshort : a.length ≤ b.length + e.length)
    (h : a ++ sep :: (d ++ x) = b ++ sep :: (e ++ y)) : a = b ∧ d = e ∧ x = y := by
  have hlength : a.length = b.length := by
    have hle := length_le_of_marked hd hlong h
    have hge := length_le_of_marked he hshort h.symm
    omega
  obtain ⟨hfield, hrest⟩ := List.append_inj h hlength
  obtain ⟨_, hmarked⟩ := List.cons.inj hrest
  obtain ⟨hmarks, hbehind⟩ := List.append_inj hmarked hmark
  exact ⟨hfield, hmarks, hbehind⟩

end KataDeviceProvisioner.Verified
