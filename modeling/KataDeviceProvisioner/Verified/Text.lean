import Mathlib.Data.List.Infix

/-!
# Text that is written and read back

Small functions on strings, through their characters: replacing a character,
looking for a substring, four-digit hexadecimal numbers, and lists separated
by a character.  Each writer has a reader here and the lemma that the reader
gets back what the writer put in.
-/

namespace KataDeviceProvisioner.Verified.Text

/-- `s.replace(a, b)` for two characters. -/
def replaceChar (a b : Char) (s : String) : String :=
  String.ofList (s.toList.map fun c => if c = a then b else c)

/-- `s.contains(needle)` -/
def contains (needle s : String) : Bool := decide (needle.toList <:+: s.toList)

/-- A needle that has neither character in it is found before and after. -/
theorem contains_replaceChar {a b : Char} {needle s : String}
    (ha : a ∉ needle.toList) (hb : b ∉ needle.toList) :
    contains needle (replaceChar a b s) = contains needle s := by
  have hmap : ∀ cs : List Char, (needle.toList = cs.map fun c => if c = a then b else c) ↔
      needle.toList = cs := by
    intro cs
    constructor
    · intro heq
      have hfix : ∀ c ∈ cs, (if c = a then b else c) = c := by
        intro c hc
        by_cases hca : c = a
        · refine absurd ?_ hb
          rw [heq]
          exact List.mem_map.mpr ⟨c, hc, if_pos hca⟩
        · exact if_neg hca
      rw [heq, List.map_congr_left hfix, List.map_id']
    · intro heq
      rw [← heq, List.map_congr_left (g := id), List.map_id]
      intro c hc
      exact if_neg fun hca : c = a => ha (hca ▸ hc)
  unfold contains replaceChar
  rw [String.toList_ofList, decide_eq_decide]
  constructor
  · intro ⟨front, back, heq⟩
    obtain ⟨cs, back', hcs, hfront, _⟩ := List.map_eq_append_iff.mp heq.symm
    obtain ⟨front', cs', rfl, _, hneedle⟩ := List.map_eq_append_iff.mp hfront
    rw [hcs, ← (hmap cs').mp hneedle.symm]
    exact ⟨front', back', rfl⟩
  · intro ⟨front, back, heq⟩
    rw [← heq, List.map_append, List.map_append, ← (hmap _).mpr rfl]
    exact ⟨_, _, rfl⟩
/-! ## Hexadecimal -/

/-- The lower-case digit of a value below sixteen. -/
def hexDigit (n : Nat) : Char :=
  if n < 10 then Char.ofNat (48 + n) else Char.ofNat (87 + n)

def hexValue (c : Char) : Option Nat :=
  if '0'.toNat ≤ c.toNat ∧ c.toNat ≤ '9'.toNat then some (c.toNat - 48)
  else if 'a'.toNat ≤ c.toNat ∧ c.toNat ≤ 'f'.toNat then some (c.toNat - 87)
  else none

theorem hexValue_hexDigit {n : Nat} (h : n < 16) : hexValue (hexDigit n) = some n := by
  have hall : ∀ n : Fin 16, hexValue (hexDigit n) = some n.val := by decide
  exact hall ⟨n, h⟩

/-- Digits are in the order of their values. -/
theorem hexDigit_le_hexDigit {m n : Nat} (hm : m < 16) (hn : n < 16) :
    hexDigit m ≤ hexDigit n ↔ m ≤ n := by
  have hall : ∀ m n : Fin 16, hexDigit m ≤ hexDigit n ↔ m.val ≤ n.val := by decide
  exact hall ⟨m, hm⟩ ⟨n, hn⟩

/-- The four characters of `format!("{n:04x}")`. -/
def hex4Chars (n : UInt16) : List Char :=
  [ hexDigit (n.toNat / 4096), hexDigit (n.toNat / 256 % 16)
  , hexDigit (n.toNat / 16 % 16), hexDigit (n.toNat % 16) ]

theorem length_flatMap_hex4Chars (ws : List UInt16) :
    (ws.flatMap hex4Chars).length = 4 * ws.length := by
  induction ws with
  | nil => rfl
  | cons w ws ih =>
      have hfour : (hex4Chars w).length = 4 := rfl
      rw [List.flatMap_cons, List.length_append, hfour, ih, List.length_cons]
      omega

/-- `format!("{n:04x}")` -/
def hex4 (n : UInt16) : String := String.ofList (hex4Chars n)

/-- Read four hexadecimal digits off the front. -/
def readHex4 : List Char → Option (UInt16 × List Char)
  | a :: b :: c :: d :: rest =>
      match hexValue a, hexValue b, hexValue c, hexValue d with
      | some a, some b, some c, some d =>
          some (UInt16.ofNat (4096 * a + 256 * b + 16 * c + d), rest)
      | _, _, _, _ => none
  | _ => none

theorem readHex4_hex4 (n : UInt16) (rest : List Char) :
    readHex4 (hex4Chars n ++ rest) = some (n, rest) := by
  have hn : n.toNat < 65536 := n.toNat_lt
  have hsplit : 4096 * (n.toNat / 4096) + 256 * (n.toNat / 256 % 16)
      + 16 * (n.toNat / 16 % 16) + n.toNat % 16 = n.toNat := by omega
  simp only [hex4Chars, List.cons_append, List.nil_append, readHex4,
    hexValue_hexDigit (show n.toNat / 4096 < 16 by omega),
    hexValue_hexDigit (show n.toNat / 256 % 16 < 16 by omega),
    hexValue_hexDigit (show n.toNat / 16 % 16 < 16 by omega),
    hexValue_hexDigit (show n.toNat % 16 < 16 by omega), hsplit, UInt16.ofNat_toNat]

theorem hex4_injective : Function.Injective hex4 := by
  intro m n h
  have hchars : hex4Chars m = hex4Chars n := by
    simpa only [hex4, String.toList_ofList] using congrArg String.toList h
  have hread := readHex4_hex4 m []
  rw [hchars, readHex4_hex4] at hread
  exact (Prod.mk.inj (Option.some.inj hread)).1.symm

/-- The characters a hexadecimal number is written with. -/
def IsHexChar (c : Char) : Prop := (hexValue c).isSome = true

theorem isHexChar_of_mem_hex4 {n : UInt16} {c : Char} (h : c ∈ hex4Chars n) : IsHexChar c := by
  have hn : n.toNat < 65536 := n.toNat_lt
  have hdigit : ∀ k, k < 16 → IsHexChar (hexDigit k) := by
    intro k hk
    simp [IsHexChar, hexValue_hexDigit hk]
  simp only [hex4Chars, List.mem_cons, List.not_mem_nil, or_false] at h
  rcases h with rfl | rfl | rfl | rfl <;> exact hdigit _ (by omega)

theorem not_mem_hex4 {c : Char} (h : hexValue c = none) (n : UInt16) :
    c ∉ (hex4 n).toList := by
  intro hmem
  rw [hex4, String.toList_ofList] at hmem
  have hchar := isHexChar_of_mem_hex4 hmem
  rw [IsHexChar, h] at hchar
  cases hchar

/-! ## Literal text in front -/

/-- Strip literal text off the front. -/
def stripText (text : String) (cs : List Char) : Option (List Char) :=
  if text.toList <+: cs then some (cs.drop text.toList.length) else none

theorem stripText_append (text : String) (rest : List Char) :
    stripText text (text.toList ++ rest) = some rest := by
  simp [stripText]

/-- Text up to a quote that is not in it. -/
theorem takeWhile_quoted {q : Char} {xs : List Char} (h : q ∉ xs) (rest : List Char) :
    (xs ++ q :: rest).takeWhile (· ≠ q) = xs ∧ (xs ++ q :: rest).dropWhile (· ≠ q) = q :: rest := by
  have hall : ∀ c ∈ xs, decide (c ≠ q) = true := fun c hc => by
    simpa using fun heq : c = q => h (heq ▸ hc)
  rw [List.takeWhile_append_of_pos hall, List.dropWhile_append_of_pos hall]
  simp

/-- `s.strip_suffix(suffix)` -/
def stripSuffix (suffix s : String) : Option String :=
  if suffix.toList <:+ s.toList then
    some (String.ofList (s.toList.take (s.toList.length - suffix.toList.length)))
  else none

theorem stripSuffix_eq_some_iff {suffix s stem : String} :
    stripSuffix suffix s = some stem ↔ s = stem ++ suffix := by
  unfold stripSuffix
  constructor
  · intro h
    by_cases hsuffix : suffix.toList <:+ s.toList
    · rw [if_pos hsuffix] at h
      obtain ⟨front, hfront⟩ := hsuffix
      rw [← Option.some.inj h, ← hfront, List.length_append, Nat.add_sub_cancel, List.take_left]
      refine String.toList_inj.mp ?_
      rw [String.toList_append, String.toList_ofList, hfront]
    · rw [if_neg hsuffix] at h
      cases h
  · rintro rfl
    rw [String.toList_append, if_pos (List.suffix_append _ _), List.length_append,
      Nat.add_sub_cancel, List.take_left, String.ofList_toList]

/-- Bytes are read as the text they are the encoding of. -/
theorem fromUTF8?_eq_some_iff {bytes : ByteArray} {s : String} :
    String.fromUTF8? bytes = some s ↔ bytes = s.toByteArray := by
  unfold String.fromUTF8?
  constructor
  · intro h
    by_cases hvalid : bytes.IsValidUTF8
    · rw [dif_pos hvalid] at h
      rw [← Option.some.inj h]
      rfl
    · rw [dif_neg hvalid] at h
      cases h
  · rintro rfl
    rw [dif_pos s.isValidUTF8]
    exact congrArg some (String.toByteArray_inj.mp rfl)

/-! ## Lists of lines and entries -/

/-- The lines of a text, each of which ends with a line break. -/
def lines (s : String) : List String := (s.toList.splitOn '\n').dropLast.map String.ofList

theorem lines_empty : lines "" = [] := rfl

theorem lines_append {line : String} (rest : String) (h : '\n' ∉ line.toList) :
    lines (line ++ "\n" ++ rest) = line :: lines rest := by
  have hsplit : (line ++ "\n" ++ rest).toList.splitOn '\n' =
      line.toList :: rest.toList.splitOn '\n' := by
    rw [String.toList_append, String.toList_append, List.append_assoc]
    exact List.splitOn_append_cons_self_of_not_mem h rest.toList
  rw [lines, hsplit, List.dropLast_cons_of_ne_nil (List.splitOn_ne_nil _ _), List.map_cons,
    String.ofList_toList, lines]

theorem lines_intercalate {ls : List String} (h : ∀ line ∈ ls, '\n' ∉ line.toList)
    (hne : ls ≠ []) : lines ("\n".intercalate ls ++ "\n") = ls := by
  induction ls with
  | nil => exact absurd rfl hne
  | cons line ls ih =>
      have hline := h line List.mem_cons_self
      cases ls with
      | nil =>
          have hone := lines_append "" hline
          rwa [String.append_empty] at hone
      | cons next ls =>
          rw [String.intercalate_cons_cons, String.append_assoc, lines_append _ hline,
            ih (fun line hmem => h line (List.mem_cons_of_mem _ hmem)) (List.cons_ne_nil _ _)]

theorem not_mem_intercalate {c : Char} {sep : String} {xs : List String}
    (hsep : c ∉ sep.toList) (h : ∀ x ∈ xs, c ∉ x.toList) :
    c ∉ (sep.intercalate xs).toList := by
  induction xs with
  | nil => simp
  | cons x xs ih =>
      have hx := h x List.mem_cons_self
      have hxs := ih fun y hy => h y (List.mem_cons_of_mem x hy)
      cases xs with
      | nil => rwa [String.intercalate_singleton]
      | cons y ys =>
          rw [String.intercalate_cons_cons]
          simp only [String.toList_append, List.mem_append, not_or]
          exact ⟨⟨hx, hsep⟩, hxs⟩

/-- What was joined with a separator that none of it contains is split again. -/
theorem splitOn_intercalate {sep : Char} {xs : List String}
    (h : ∀ x ∈ xs, sep ∉ x.toList) (hne : xs ≠ []) :
    ((String.singleton sep).intercalate xs).toList.splitOn sep = xs.map String.toList := by
  rw [String.toList_intercalate, String.toList_singleton]
  refine List.splitOn_intercalate sep (fun l hl => ?_) (by simpa using hne)
  obtain ⟨x, hx, rfl⟩ := List.mem_map.mp hl
  exact h x hx

/-- What can be read back one by one can be read back as a list. -/
theorem mapM_map_of_read {α β : Type} {write : β → α} {read : α → Option β} {ys : List β}
    (h : ∀ y ∈ ys, read (write y) = some y) : (ys.map write).mapM read = some ys := by
  induction ys with
  | nil => rfl
  | cons y ys ih =>
      rw [List.map_cons, List.mapM_cons, h y List.mem_cons_self,
        ih fun y' hy' => h y' (List.mem_cons_of_mem y hy')]
      rfl

end KataDeviceProvisioner.Verified.Text
