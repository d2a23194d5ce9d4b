import KataDeviceProvisioner.Verified.Text
import Mathlib.Data.List.Forall2

/-!
# Regular expressions without repetition

Patterns made of plain characters, bracket classes and the anchors `^` and `$`,
and what finds them in a text, as Go's `regexp` has it: a pattern that is not
anchored is found anywhere.

`search_anchored` is what such a pattern comes to when it has both anchors: as
many characters as it has classes, each in its own.
-/

namespace KataDeviceProvisioner.Verified.Regexp

/-- The ranges of a bracket class, both ends included. -/
abbrev Class : Type := List (Char × Char)

def Class.has (ranges : Class) (c : Char) : Bool :=
  ranges.any fun range => decide (range.1 ≤ c) && decide (c ≤ range.2)

inductive Item where
  | start
  | stop
  | oneOf (ranges : Class)
  deriving Repr, DecidableEq

/-! ## Patterns as they are written -/

/-- A character that stands for itself. -/
def plain (c : Char) : Bool := c.isAlphanum

/-- Read a pattern, of whose bracket class `inside` has been read so far. -/
def compileFrom : Option Class → List Char → Option (List Item)
  | none, [] => some []
  | none, '^' :: cs => (compileFrom none cs).map (.start :: ·)
  | none, '$' :: cs => (compileFrom none cs).map (.stop :: ·)
  | none, '[' :: cs => compileFrom (some []) cs
  | none, c :: cs =>
      if plain c then (compileFrom none cs).map (.oneOf [(c, c)] :: ·) else none
  | some _, [] => none
  | some inside, ']' :: cs =>
      if inside.isEmpty then none else (compileFrom none cs).map (.oneOf inside :: ·)
  | some inside, low :: '-' :: high :: cs =>
      if plain low && plain high && decide (low ≤ high) then
        compileFrom (some (inside ++ [(low, high)])) cs
      else none
  | some inside, c :: cs =>
      if plain c then compileFrom (some (inside ++ [(c, c)])) cs else none

def compile (pattern : String) : Option (List Item) := compileFrom none pattern.toList

/-! ## Finding them -/

/-- Whether a pattern is found where the text is cut, `first` at its front. -/
def found (first : Bool) : List Item → List Char → Bool
  | [], _ => true
  | .start :: items, cs => first && found first items cs
  | .stop :: items, cs => cs.isEmpty && found first items cs
  | .oneOf _ :: _, [] => false
  | .oneOf ranges :: items, c :: cs => ranges.has c && found false items cs

/-- Whether a pattern is found anywhere. -/
def search (items : List Item) (cs : List Char) : Bool :=
  found true items cs || cs.tails.tail.any (found false items)

/-- `MatchString`, where a pattern that cannot be read is found nowhere. -/
def matchString (pattern s : String) : Bool :=
  (compile pattern).any fun items => search items s.toList

theorem matchString_of_compile {pattern s : String} {items : List Item}
    (h : compile pattern = some items) :
    matchString pattern s = search items s.toList := by
  rw [matchString, h, Option.any_some]

/-- The pattern that is anchored at both ends and has these classes between. -/
def anchored (classes : List Class) : List Item :=
  .start :: (classes.map .oneOf ++ [.stop])

theorem found_classes {first : Bool} {classes : List Class} {cs : List Char} :
    found first (classes.map .oneOf ++ [.stop]) cs = true ↔
      List.Forall₂ (fun (ranges : Class) c => ranges.has c = true) classes cs := by
  induction classes generalizing first cs with
  | nil => cases cs <;> simp [found]
  | cons ranges classes ih =>
      cases cs with
      | nil => simp [found]
      | cons c cs =>
          rw [List.map_cons, List.cons_append, found, Bool.and_eq_true, ih, List.forall₂_cons]

/-- Anchored at both ends, a pattern is found only in a text with one character
of each of its classes. -/
theorem search_anchored {classes : List Class} {cs : List Char} :
    search (anchored classes) cs = true ↔
      List.Forall₂ (fun (ranges : Class) c => ranges.has c = true) classes cs := by
  -- Away from the front there is no `^`.
  have helsewhere : cs.tails.tail.any (found false (anchored classes)) = false := by
    rw [List.any_eq_false]
    intro rest _ h
    cases h
  rw [search, helsewhere, Bool.or_false, anchored, found, Bool.true_and, found_classes]

/-! ## Four hexadecimal digits -/

/-- The digits between two digits. -/
def digits (ranges : List (Fin 16 × Fin 16)) : Class :=
  ranges.map fun range => (Text.hexDigit range.1, Text.hexDigit range.2)

def Within (ranges : List (Fin 16 × Fin 16)) (k : Nat) : Prop :=
  ∃ range ∈ ranges, range.1.val ≤ k ∧ k ≤ range.2.val

theorem has_digits {ranges : List (Fin 16 × Fin 16)} {k : Nat} (hk : k < 16) :
    (digits ranges).has (Text.hexDigit k) = true ↔ Within ranges k := by
  rw [Class.has, digits, List.any_map, List.any_eq_true]
  refine exists_congr fun range => and_congr_right fun _ => ?_
  rw [Function.comp_apply, Bool.and_eq_true, decide_eq_true_iff, decide_eq_true_iff,
    Text.hexDigit_le_hexDigit range.1.isLt hk,
    Text.hexDigit_le_hexDigit hk range.2.isLt]

/-- A pattern of four classes of digits says of a number what it says of each of
its digits. -/
theorem matchString_hex4 {pattern : String} (a b c d : List (Fin 16 × Fin 16))
    (h : compile pattern = some (anchored [digits a, digits b, digits c, digits d]))
    (n : UInt16) :
    matchString pattern (Text.hex4 n) = true ↔
      Within a (n.toNat / 4096) ∧ Within b (n.toNat / 256 % 16) ∧
        Within c (n.toNat / 16 % 16) ∧ Within d (n.toNat % 16) := by
  have hn : n.toNat < 65536 := n.toNat_lt
  rw [matchString_of_compile h, search_anchored, Text.hex4, String.toList_ofList, Text.hex4Chars]
  simp only [List.forall₂_cons, List.forall₂_nil_left_iff, and_true]
  rw [has_digits (by omega), has_digits (by omega), has_digits (by omega), has_digits (by omega)]

example : matchString "^23[0-3][0-9a-f]$" (Text.hex4 0x2331) = true := by decide

example : matchString "^23[0-3][0-9a-f]$" (Text.hex4 0x2342) = false := by decide

end KataDeviceProvisioner.Verified.Regexp
