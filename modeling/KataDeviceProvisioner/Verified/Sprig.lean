import KataDeviceProvisioner.Verified.Text
import Mathlib.Data.List.DropRight
import Mathlib.Data.List.Nodup

/-!
# The template functions of a Helm chart

The functions of the template library a chart hands lists and names around
with.  A template can only return text, so lists travel joined by commas and are
split again (`compact_splitList_join`), and names are folded and cut to what the
API server accepts.

Lengths and cuts count bytes in the library; here they count characters, which
is the same on the ASCII text they are used on.
-/

namespace KataDeviceProvisioner.Verified.Sprig

/-! ## Scalars -/

/-- A scalar of a values file. -/
inductive Scalar where
  | null
  | bool (value : Bool)
  | int (value : Int)
  | string (value : String)
  deriving Repr, DecidableEq

/-- `toString` -/
def Scalar.toString : Scalar → String
  | .null => "<nil>"
  | .bool true => "true"
  | .bool false => "false"
  | .int value => ToString.toString value
  | .string value => value

/-! ## Lists -/

/-- `join sep xs` -/
def join (sep : String) (xs : List String) : String := sep.intercalate xs

/-- `splitList sep s`, for a separator of one character. -/
def splitList (sep : Char) (s : String) : List String :=
  (s.toList.splitOn sep).map String.ofList

/-- `compact xs`: without the empty ones. -/
def compact (xs : List String) : List String := xs.filter fun x => x != ""

/-- `uniq xs`: each once, where it is first. -/
def uniq (xs : List String) : List String := xs.eraseDups

@[simp] theorem mem_uniq {x : String} {xs : List String} : x ∈ uniq xs ↔ x ∈ xs :=
  List.mem_eraseDups

theorem uniq_cons (x : String) (xs : List String) :
    uniq (x :: xs) = x :: uniq (xs.filter fun y => !y == x) := by
  rw [uniq, List.eraseDups_cons]
  rfl

theorem nodup_uniq (xs : List String) : (uniq xs).Nodup := by
  induction hlen : xs.length using Nat.strong_induction_on generalizing xs with
  | _ n ih =>
      cases xs with
      | nil => exact List.nodup_nil
      | cons x xs =>
          rw [uniq_cons, List.nodup_cons]
          constructor
          · simp
          · refine ih _ ?_ _ rfl
            have hle := List.length_filter_le (fun y => !y == x) xs
            rw [List.length_cons] at hlen
            omega

/-- A list that was joined by commas is split again. -/
theorem splitList_join {xs : List String} (h : ∀ x ∈ xs, ',' ∉ x.toList) (hne : xs ≠ []) :
    splitList ',' (join "," xs) = xs := by
  have hsplit : (join "," xs).toList.splitOn ',' = xs.map String.toList :=
    Text.splitOn_intercalate h hne
  rw [splitList, hsplit, List.map_map]
  simp

/-- So it comes through a template, the empty list too. -/
theorem compact_splitList_join {xs : List String} (h : ∀ x ∈ xs, ',' ∉ x.toList)
    (hempty : ∀ x ∈ xs, x ≠ "") : compact (splitList ',' (join "," xs)) = xs := by
  by_cases hne : xs = []
  · subst hne
    decide
  · rw [splitList_join h hne]
    exact List.filter_eq_self.mpr fun x hx => by simpa using hempty x hx

/-! ## Names -/

/-- `trunc n s` -/
def trunc (n : Nat) (s : String) : String := String.ofList (s.toList.take n)

/-- `trimSuffix suffix s` -/
def trimSuffix (suffix s : String) : String :=
  if suffix.toList <:+ s.toList then
    String.ofList (s.toList.take (s.toList.length - suffix.toList.length))
  else s

/-- `trimAll cut s`, for one character to cut. -/
def trimAll (cut : Char) (s : String) : String :=
  String.ofList ((s.toList.dropWhile (· == cut)).rdropWhile (· == cut))

/-- Every run of characters that are not kept becomes one `mark`. -/
def foldRunsFrom (keep : Char → Bool) (mark : Char) : (inRun : Bool) → List Char → List Char
  | _, [] => []
  | inRun, c :: cs =>
      if keep c then c :: foldRunsFrom keep mark false cs
      else if inRun then foldRunsFrom keep mark true cs
      else mark :: foldRunsFrom keep mark true cs

/-- `regexReplaceAll "[^…]+" s mark`, where `keep` says what the brackets
exclude. -/
def foldRuns (keep : Char → Bool) (mark : Char) (s : String) : String :=
  String.ofList (foldRunsFrom keep mark false s.toList)

theorem append_between_inj (front back : String) {a b : String}
    (h : front ++ (a ++ back) = front ++ (b ++ back)) : a = b := by
  have hlist := congrArg String.toList h
  simp only [String.toList_append] at hlist
  exact String.toList_inj.mp (List.append_cancel_right (List.append_cancel_left hlist))

theorem length_trunc {n : Nat} {s : String} (h : n ≤ s.toList.length) :
    (trunc n s).toList.length = n := by
  rw [trunc, String.toList_ofList, List.length_take]
  omega

theorem length_trunc_le (n : Nat) (s : String) : (trunc n s).toList.length ≤ n := by
  rw [trunc, String.toList_ofList, List.length_take]
  omega

theorem length_trimSuffix_le (suffix s : String) :
    (trimSuffix suffix s).toList.length ≤ s.toList.length := by
  unfold trimSuffix
  by_cases hsuffix : suffix.toList <:+ s.toList
  · rw [if_pos hsuffix, String.toList_ofList, List.length_take]
    omega
  · rw [if_neg hsuffix]

theorem mem_trunc {n : Nat} {s : String} {c : Char} (h : c ∈ (trunc n s).toList) :
    c ∈ s.toList := by
  rw [trunc, String.toList_ofList] at h
  exact List.mem_of_mem_take h

theorem mem_foldRunsFrom {keep : Char → Bool} {mark c : Char} {inRun : Bool} {cs : List Char}
    (h : c ∈ foldRunsFrom keep mark inRun cs) : keep c = true ∨ c = mark := by
  induction cs generalizing inRun with
  | nil => cases h
  | cons d cs ih =>
      unfold foldRunsFrom at h
      by_cases hkeep : keep d = true
      · rw [if_pos hkeep] at h
        rcases List.mem_cons.mp h with rfl | h
        · exact .inl hkeep
        · exact ih h
      · rw [if_neg hkeep] at h
        by_cases hrun : inRun = true
        · rw [if_pos hrun] at h
          exact ih h
        · rw [if_neg hrun] at h
          rcases List.mem_cons.mp h with rfl | h
          · exact .inr rfl
          · exact ih h

theorem foldRunsFrom_of_all {keep : Char → Bool} {mark : Char} {inRun : Bool} {cs : List Char}
    (h : ∀ c ∈ cs, keep c = true) : foldRunsFrom keep mark inRun cs = cs := by
  induction cs generalizing inRun with
  | nil => rfl
  | cons c cs ih =>
      unfold foldRunsFrom
      rw [if_pos (h c List.mem_cons_self), ih fun d hd => h d (List.mem_cons_of_mem c hd)]

/-- Text of nothing but what is kept stays as it is. -/
theorem foldRuns_of_all {keep : Char → Bool} {mark : Char} {s : String}
    (h : ∀ c ∈ s.toList, keep c = true) : foldRuns keep mark s = s := by
  rw [foldRuns, foldRunsFrom_of_all h, String.ofList_toList]

theorem mem_foldRuns {keep : Char → Bool} {mark c : Char} {s : String}
    (h : c ∈ (foldRuns keep mark s).toList) : keep c = true ∨ c = mark := by
  rw [foldRuns, String.toList_ofList] at h
  exact mem_foldRunsFrom h

theorem mem_trimAll {cut c : Char} {s : String} (h : c ∈ (trimAll cut s).toList) :
    c ∈ s.toList := by
  rw [trimAll, String.toList_ofList] at h
  exact (List.dropWhile_suffix _).subset ((List.rdropWhile_prefix _ _).subset h)

/-- Trimmed text neither starts nor ends with what is cut. -/
theorem trimAll_ends (cut : Char) (s : String) :
    (trimAll cut s).toList.head? ≠ some cut ∧ (trimAll cut s).toList.getLast? ≠ some cut := by
  rw [trimAll, String.toList_ofList]
  constructor
  · intro hhead
    have hfirst : (s.toList.dropWhile (· == cut)).head? = some cut :=
      List.singleton_prefix_iff_head?_eq_some.mp
        ((List.singleton_prefix_iff_head?_eq_some.mpr hhead).trans (List.rdropWhile_prefix _ _))
    have hnot := List.head?_dropWhile_not (· == cut) s.toList
    rw [hfirst] at hnot
    simp at hnot
  · intro hend
    have hne : (s.toList.dropWhile (· == cut)).rdropWhile (· == cut) ≠ [] := by
      intro hnil
      rw [hnil] at hend
      cases hend
    have hnot := List.rdropWhile_last_not (· == cut) _ hne
    rw [List.getLast?_eq_some_getLast hne] at hend
    rw [Option.some.inj hend] at hnot
    simp at hnot

/-- And text that does neither is left as it is. -/
theorem trimAll_eq_self {cut : Char} {s : String} (hfirst : s.toList.head? ≠ some cut)
    (hlast : s.toList.getLast? ≠ some cut) : trimAll cut s = s := by
  have hdrop : s.toList.dropWhile (· == cut) = s.toList := by
    cases hs : s.toList with
    | nil => rfl
    | cons c cs =>
        rw [hs] at hfirst
        rw [List.dropWhile_cons_of_neg]
        simpa using hfirst
  have hrdrop : s.toList.rdropWhile (· == cut) = s.toList := by
    rw [List.rdropWhile_eq_self_iff]
    intro hne heq
    rw [List.getLast?_eq_some_getLast hne] at hlast
    exact hlast (congrArg some (by simpa using heq))
  rw [trimAll, hdrop, hrdrop, String.ofList_toList]

end KataDeviceProvisioner.Verified.Sprig
