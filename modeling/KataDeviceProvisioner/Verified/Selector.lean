import Mathlib.Data.List.Forall2
import Mathlib.Data.String.Basic

/-!
# Label selectors

The label selectors of the Kubernetes API: what a requirement asks of the labels
of an object, and how requirements are written and joined by commas.

`Reads` says what the requirements a template writes have to be read as, and is
all that is asked of a reader.  `read` is a reader (`read_reads`): it follows the
documented grammar, with labels and values as the API server accepts them.
-/

namespace KataDeviceProvisioner.Verified.Selector

/-! ## Requirements -/

/-- The labels of an object. -/
abbrev Labels : Type := String → Option String

inductive Operator where
  | isIn
  | notIn
  | present
  | absent
  | greater
  | less
  deriving Repr, DecidableEq

structure Requirement where
  key : String
  operator : Operator
  values : List String
  deriving Repr, DecidableEq

/-- A number as `greater` and `less` take it. -/
def number (s : String) : Option Nat := s.toNat?.filter (· < 2 ^ 63)

def Requirement.holds (r : Requirement) (labels : Labels) : Bool :=
  match r.operator with
  | .isIn => (labels r.key).any fun value => r.values.contains value
  -- An object without the label is none of the values.
  | .notIn => !(labels r.key).any fun value => r.values.contains value
  | .present => (labels r.key).isSome
  | .absent => (labels r.key).isNone
  | .greater =>
      match (labels r.key).bind number, r.values.head?.bind number with
      | some value, some bound => decide (bound < value)
      | _, _ => false
  | .less =>
      match (labels r.key).bind number, r.values.head?.bind number with
      | some value, some bound => decide (value < bound)
      | _, _ => false

/-- Labels that meet every requirement. -/
def Meets (requirements : List Requirement) (labels : Labels) : Prop :=
  ∀ r ∈ requirements, r.holds labels = true

variable {key value : String} {values : List String} {labels : Labels}

@[simp] theorem holds_isIn : (Requirement.mk key .isIn [value]).holds labels = true ↔
    labels key = some value := by
  simp [Requirement.holds, Option.any_eq_true]

@[simp] theorem holds_notIn : (Requirement.mk key .notIn values).holds labels = true ↔
    ∀ value ∈ values, labels key ≠ some value := by
  simp only [Requirement.holds, Bool.not_eq_true', Option.any_eq_false]
  constructor
  · intro h value hmem hlabel
    simpa [hmem] using h value hlabel
  · intro h value hlabel
    simpa using fun hmem => h value hmem hlabel

@[simp] theorem holds_absent : (Requirement.mk key .absent []).holds labels = true ↔
    labels key = none := by
  simp [Requirement.holds]

@[simp] theorem meets_nil : Meets [] labels := by
  simp [Meets]

@[simp] theorem meets_singleton {r : Requirement} :
    Meets [r] labels ↔ r.holds labels = true := by
  simp [Meets]

/-! ## Keys and values -/

def nameChar (c : Char) : Bool := c.isAlphanum || c == '-' || c == '_' || c == '.'

/-- Up to 63 characters, letters or digits at both ends. -/
def validName (cs : List Char) : Bool :=
  !cs.isEmpty && decide (cs.length ≤ 63) && cs.all nameChar &&
    cs.head?.all Char.isAlphanum && cs.getLast?.all Char.isAlphanum

/-- One part of a DNS name. -/
def validPart (cs : List Char) : Bool :=
  !cs.isEmpty && cs.all (fun c => c.isLower || c.isDigit || c == '-') &&
    cs.head? != some '-' && cs.getLast? != some '-'

def validPrefix (cs : List Char) : Bool :=
  decide (cs.length ≤ 253) && (cs.splitOn '.').all validPart

/-- A label's key: a name, behind a DNS name and a slash or not. -/
def validKey (key : String) : Bool :=
  match key.toList.splitOn '/' with
  | [name] => validName name
  | [domain, name] => validPrefix domain && validName name
  | _ => false

def validValue (value : String) : Bool := value == "" || validName value.toList

/-! ## What a reader is asked -/

/-- A reader of selectors takes what a template writes for what it means, and
one selector joined to another for both. -/
structure Reads (read : String → Option (List Requirement)) : Prop where
  empty : read "" = some []
  equal : ∀ key value, validKey key = true → validValue value = true →
    read (key ++ "=" ++ value) = some [⟨key, .isIn, [value]⟩]
  notIn : ∀ key values, validKey key = true → values ≠ [] →
    (∀ value ∈ values, validValue value = true ∧ value ≠ "") →
    read (key ++ " notin (" ++ ",".intercalate values ++ ")") = some [⟨key, .notIn, values⟩]
  absent : ∀ key, validKey key = true → read ("!" ++ key) = some [⟨key, .absent, []⟩]
  join : ∀ a b rs ss, read a = some rs → read b = some ss → rs ≠ [] → ss ≠ [] →
    read (a ++ "," ++ b) = some (rs ++ ss)

/-- Whether a selector, as it is read, takes an object with these labels. -/
def selects (read : String → Option (List Requirement)) (s : String) (labels : Labels) : Bool :=
  (read s).any fun requirements => requirements.all fun r => r.holds labels

section Reader

variable {read : String → Option (List Requirement)}

theorem selects_iff {s : String} {rs : List Requirement} (h : read s = some rs) :
    selects read s labels = true ↔ Meets rs labels := by
  simp [selects, h, Meets]

/-- Selectors that each ask for something, joined, ask for all of it. -/
theorem Reads.intercalate (hread : Reads read) {terms : List String}
    {parts : List (List Requirement)}
    (h : List.Forall₂ (fun term rs => read term = some rs ∧ rs ≠ []) terms parts) :
    read (",".intercalate terms) = some parts.flatten ∧ (terms ≠ [] → parts.flatten ≠ []) := by
  induction h with
  | nil => exact ⟨hread.empty, fun hne => absurd rfl hne⟩
  | @cons term rs terms parts hterm hterms ih =>
      have hne : (rs :: parts).flatten ≠ [] := by
        rw [List.flatten_cons]
        exact List.append_ne_nil_of_left_ne_nil hterm.2 _
      refine ⟨?_, fun _ => hne⟩
      cases hterms with
      | nil =>
          rw [String.intercalate_singleton, hterm.1]
          simp
      | cons hnext hrest =>
          rw [String.intercalate_cons_cons, List.flatten_cons]
          exact hread.join _ _ _ _ hterm.1 ih.1 hterm.2 (ih.2 (List.cons_ne_nil _ _))

theorem meets_flatten {parts : List (List Requirement)} :
    Meets parts.flatten labels ↔ ∀ rs ∈ parts, Meets rs labels := by
  simp only [Meets, List.mem_flatten]
  exact ⟨fun h rs hrs r hr => h r ⟨rs, hrs, hr⟩, fun h r ⟨rs, hrs, hr⟩ => h rs hrs r hr⟩

/-- So an object is taken by selectors joined if each of them takes it. -/
theorem Reads.selects_intercalate (hread : Reads read) {terms : List String}
    (h : ∀ term ∈ terms, ∃ rs, read term = some rs ∧ rs ≠ []) :
    selects read (",".intercalate terms) labels = true ↔
      ∀ term ∈ terms, selects read term labels = true := by
  have hparts : List.Forall₂ (fun term rs => read term = some rs ∧ rs ≠ []) terms
      (terms.map fun term => (read term).getD []) := by
    refine List.forall₂_map_right_iff.mpr (List.forall₂_same.mpr fun term hterm => ?_)
    obtain ⟨rs, hrs, hne⟩ := h term hterm
    rw [hrs]
    exact ⟨rfl, hne⟩
  rw [selects_iff (hread.intercalate hparts).1, meets_flatten, List.forall_mem_map]
  refine forall₂_congr fun term hterm => ?_
  obtain ⟨rs, hrs, _⟩ := h term hterm
  rw [selects_iff hrs, hrs]
  rfl

end Reader

/-! ## Tokens -/

inductive Token where
  | word (text : String)
  | equal
  | doubleEqual
  | notEqual
  | bang
  | less
  | greater
  | opening
  | closing
  | comma
  deriving Repr, DecidableEq

/-- What has been read and could go on. -/
inductive Pending where
  | nothing
  | word (cs : List Char)
  | equal
  | bang
  deriving Repr, DecidableEq

def Pending.flush : Pending → List Token
  | .nothing => []
  | .word cs => [.word (String.ofList cs)]
  | .equal => [.equal]
  | .bang => [.bang]

/-- The characters no word has. -/
def separators : List Char := ['=', '!', '(', ')', ',', '<', '>', ' ', '\t', '\r', '\n']

def Pending.step (pending : Pending) (c : Char) : List Token × Pending :=
  if c = '=' then
    match pending with
    | .equal => ([.doubleEqual], .nothing)
    | .bang => ([.notEqual], .nothing)
    | pending => (pending.flush, .equal)
  else if c = '!' then (pending.flush, .bang)
  else if c = '(' then (pending.flush ++ [.opening], .nothing)
  else if c = ')' then (pending.flush ++ [.closing], .nothing)
  else if c = ',' then (pending.flush ++ [.comma], .nothing)
  else if c = '<' then (pending.flush ++ [.less], .nothing)
  else if c = '>' then (pending.flush ++ [.greater], .nothing)
  else if separators.contains c then (pending.flush, .nothing)
  else
    match pending with
    | .word cs => ([], .word (cs ++ [c]))
    | pending => (pending.flush, .word [c])

def tokensFrom (pending : Pending) : List Char → List Token
  | [] => pending.flush
  | c :: cs => (pending.step c).1 ++ tokensFrom (pending.step c).2 cs

def tokens (s : String) : List Token := tokensFrom .nothing s.toList

/-! ## Reading -/

/-- The values between brackets, from behind the opening one. -/
def listed : List Token → Option (List String)
  | [.closing] => some [""]
  | [.word value, .closing] => some [value]
  | .comma :: ts => (listed ts).map ("" :: ·)
  | .word value :: .comma :: ts => (listed ts).map (value :: ·)
  | _ => none

/-- As many values as the operator takes, and of its kind. -/
def Requirement.operandsOk (r : Requirement) : Bool :=
  match r.operator with
  | .isIn | .notIn => !r.values.isEmpty
  | .present | .absent => r.values.isEmpty
  | .greater | .less => r.values.length == 1 && (r.values.head?.bind number).isSome

/-- A requirement the API server accepts. -/
def accepted (r : Requirement) : Option Requirement :=
  if validKey r.key && r.values.all validValue && r.operandsOk then some r else none

def requirement : List Token → Option Requirement
  | [.word key] => accepted ⟨key, .present, []⟩
  | [.bang, .word key] => accepted ⟨key, .absent, []⟩
  | [.word key, .equal] | [.word key, .doubleEqual] => accepted ⟨key, .isIn, [""]⟩
  | [.word key, .notEqual] => accepted ⟨key, .notIn, [""]⟩
  | [.word key, .equal, .word value] | [.word key, .doubleEqual, .word value] =>
      accepted ⟨key, .isIn, [value]⟩
  | [.word key, .notEqual, .word value] => accepted ⟨key, .notIn, [value]⟩
  | [.word key, .greater, .word value] => accepted ⟨key, .greater, [value]⟩
  | [.word key, .less, .word value] => accepted ⟨key, .less, [value]⟩
  | [.word _, .word _, .opening, .closing] => none
  | .word key :: .word operator :: .opening :: ts =>
      if operator = "in" then (listed ts).bind fun values => accepted ⟨key, .isIn, values⟩
      else if operator = "notin" then
        (listed ts).bind fun values => accepted ⟨key, .notIn, values⟩
      else none
  | _ => none

def within (inside : Bool) : Token → Bool
  | .opening => true
  | .closing => false
  | _ => inside

/-- The tokens between the commas that are not in brackets, all of which have to
be closed. -/
def segments : (inside : Bool) → List Token → Option (List (List Token))
  | inside, [] => if inside then none else some [[]]
  | inside, t :: ts =>
      if t = .comma ∧ inside = false then (segments false ts).map ([] :: ·)
      else (segments (within inside t) ts).map fun rest => rest.modifyHead (t :: ·)

/-- No requirements at all is a selector too, and one that everything meets. -/
def read (s : String) : Option (List Requirement) :=
  match tokens s with
  | [] => some []
  | ts => (segments false ts).bind fun parts => parts.mapM requirement

/-! ## Joining -/

theorem tokensFrom_comma (pending : Pending) (cs ds : List Char) :
    tokensFrom pending (cs ++ ',' :: ds) =
      tokensFrom pending cs ++ .comma :: tokensFrom .nothing ds := by
  induction cs generalizing pending with
  | nil =>
      show (pending.flush ++ [Token.comma]) ++ tokensFrom .nothing ds = _
      rw [List.append_assoc]
      rfl
  | cons c cs ih =>
      rw [List.cons_append, tokensFrom, tokensFrom, ih, List.append_assoc]

theorem tokens_comma (a b : String) : tokens (a ++ "," ++ b) = tokens a ++ .comma :: tokens b := by
  have hcomma : (a ++ "," ++ b).toList = a.toList ++ ',' :: b.toList := by
    simp
  rw [tokens, hcomma, tokensFrom_comma]
  rfl

theorem segments_ne_nil {inside : Bool} {ts : List Token} {parts : List (List Token)}
    (h : segments inside ts = some parts) : parts ≠ [] := by
  induction ts generalizing inside parts with
  | nil =>
      unfold segments at h
      by_cases hin : inside = true
      · rw [if_pos hin] at h
        cases h
      · rw [if_neg hin] at h
        rw [← Option.some.inj h]
        exact List.cons_ne_nil _ _
  | cons t ts ih =>
      unfold segments at h
      by_cases hcomma : t = .comma ∧ inside = false
      · rw [if_pos hcomma, Option.map_eq_some_iff] at h
        obtain ⟨rest, _, rfl⟩ := h
        exact List.cons_ne_nil _ _
      · rw [if_neg hcomma, Option.map_eq_some_iff] at h
        obtain ⟨rest, hrest, rfl⟩ := h
        have hne := ih hrest
        cases rest with
        | nil => exact absurd rfl hne
        | cons part rest => exact List.cons_ne_nil _ _

/-- A comma behind text whose brackets are closed starts over. -/
theorem segments_comma {inside : Bool} {ts us : List Token} {parts : List (List Token)}
    (h : segments inside ts = some parts) :
    segments inside (ts ++ .comma :: us) = (segments false us).map (parts ++ ·) := by
  induction ts generalizing inside parts with
  | nil =>
      unfold segments at h
      by_cases hin : inside = true
      · rw [if_pos hin] at h
        cases h
      · rw [if_neg hin] at h
        rw [List.nil_append, segments, if_pos ⟨rfl, by simpa using hin⟩, ← Option.some.inj h]
        rfl
  | cons t ts ih =>
      rw [segments] at h
      rw [List.cons_append, segments]
      by_cases hcomma : t = .comma ∧ inside = false
      · rw [if_pos hcomma, Option.map_eq_some_iff] at h
        obtain ⟨rest, hrest, rfl⟩ := h
        rw [if_pos hcomma, ih hrest, Option.map_map]
        rfl
      · rw [if_neg hcomma, Option.map_eq_some_iff] at h
        obtain ⟨rest, hrest, rfl⟩ := h
        rw [if_neg hcomma, ih hrest, Option.map_map]
        have hne := segments_ne_nil hrest
        cases rest with
        | nil => exact absurd rfl hne
        | cons part rest => rfl

theorem read_some {s : String} {rs : List Requirement} (hne : rs ≠ []) :
    read s = some rs ↔ ∃ parts, segments false (tokens s) = some parts ∧
      parts.mapM requirement = some rs := by
  unfold read
  cases htokens : tokens s with
  | nil =>
      constructor
      · intro h
        exact absurd (Option.some.inj h).symm hne
      · intro ⟨parts, hparts, hmap⟩
        obtain rfl := Option.some.inj hparts
        cases hmap
  | cons t ts => exact Option.bind_eq_some_iff

theorem read_join {a b : String} {rs ss : List Requirement} (ha : read a = some rs)
    (hb : read b = some ss) (hrs : rs ≠ []) (hss : ss ≠ []) :
    read (a ++ "," ++ b) = some (rs ++ ss) := by
  obtain ⟨parts, hparts, hmap⟩ := (read_some hrs).mp ha
  obtain ⟨parts', hparts', hmap'⟩ := (read_some hss).mp hb
  refine (read_some (List.append_ne_nil_of_left_ne_nil hrs ss)).mpr ⟨parts ++ parts', ?_, ?_⟩
  · rw [tokens_comma, segments_comma hparts, hparts']
    rfl
  · rw [List.mapM_append, hmap, hmap']
    rfl

/-! ## Words -/

/-- A character that does not end a word. -/
def WordChar (c : Char) : Prop := c ∉ separators

instance (c : Char) : Decidable (WordChar c) := inferInstanceAs (Decidable (c ∉ separators))

/-- Any such character goes on with a word, or starts one. -/
theorem step_wordChar {pending : Pending} {c : Char} (h : WordChar c) :
    pending.step c =
      match pending with
      | .word cs => ([], .word (cs ++ [c]))
      | pending => (pending.flush, .word [c]) := by
  have hnot : separators.contains c = false := by
    simpa [WordChar] using h
  have hne : ∀ d ∈ separators, c ≠ d := by
    intro d hd heq
    exact h (heq ▸ hd)
  unfold Pending.step
  rw [if_neg (hne '=' (by decide)), if_neg (hne '!' (by decide)), if_neg (hne '(' (by decide)),
    if_neg (hne ')' (by decide)), if_neg (hne ',' (by decide)), if_neg (hne '<' (by decide)),
    if_neg (hne '>' (by decide)), hnot, if_neg Bool.false_ne_true]

theorem step_word {cs : List Char} {c : Char} (h : WordChar c) :
    (Pending.word cs).step c = ([], .word (cs ++ [c])) := by
  rw [step_wordChar h]

theorem step_first {pending : Pending} {c : Char} (h : WordChar c)
    (hpending : ∀ cs, pending ≠ .word cs) : pending.step c = (pending.flush, .word [c]) := by
  rw [step_wordChar h]
  cases pending with
  | word cs => exact absurd rfl (hpending cs)
  | nothing => rfl
  | equal => rfl
  | bang => rfl

theorem tokensFrom_word {cs word rest : List Char} (h : ∀ c ∈ word, WordChar c) :
    tokensFrom (.word cs) (word ++ rest) = tokensFrom (.word (cs ++ word)) rest := by
  induction word generalizing cs with
  | nil => simp
  | cons c word ih =>
      rw [List.cons_append, tokensFrom, step_word (h c List.mem_cons_self), List.nil_append,
        ih fun d hd => h d (List.mem_cons_of_mem c hd), List.append_assoc]
      rfl

/-- A word is read as one. -/
theorem tokensFrom_first {pending : Pending} {word rest : List Char}
    (hpending : ∀ cs, pending ≠ .word cs) (hne : word ≠ []) (h : ∀ c ∈ word, WordChar c) :
    tokensFrom pending (word ++ rest) = pending.flush ++ tokensFrom (.word word) rest := by
  cases word with
  | nil => exact absurd rfl hne
  | cons c word =>
      rw [List.cons_append, tokensFrom, step_first (h c List.mem_cons_self) hpending,
        tokensFrom_word fun d hd => h d (List.mem_cons_of_mem c hd)]
      rfl

theorem wordChar_of_nameChar {c : Char} (h : nameChar c = true) : WordChar c := by
  have hall : separators.all (fun d => !nameChar d) = true := by decide
  intro hmem
  have hnot := List.all_eq_true.mp hall c hmem
  rw [h] at hnot
  cases hnot

theorem validName_spec {cs : List Char} (h : validName cs = true) :
    cs ≠ [] ∧ ∀ c ∈ cs, WordChar c := by
  simp only [validName, Bool.and_eq_true, Bool.not_eq_true', List.isEmpty_eq_false_iff,
    List.all_eq_true] at h
  exact ⟨h.1.1.1.1, fun c hc => wordChar_of_nameChar (h.1.1.2 c hc)⟩

theorem validValue_spec {value : String} (h : validValue value = true) (hne : value ≠ "") :
    value.toList ≠ [] ∧ ∀ c ∈ value.toList, WordChar c := by
  simp only [validValue, Bool.or_eq_true, beq_iff_eq] at h
  rcases h with rfl | h
  · exact absurd rfl hne
  · exact validName_spec h

theorem mem_of_splitOn {a c : Char} {cs : List Char} (h : c ∈ cs) :
    c = a ∨ ∃ part ∈ cs.splitOn a, c ∈ part := by
  induction cs with
  | nil => cases h
  | cons d cs ih =>
      rw [List.splitOn_cons_eq_if_modifyHead]
      by_cases hd : d = a
      · rw [if_pos (by simpa using hd)]
        rcases List.mem_cons.mp h with rfl | h
        · exact .inl hd
        · exact (ih h).imp_right fun ⟨part, hpart, hc⟩ => ⟨part, List.mem_cons_of_mem _ hpart, hc⟩
      · rw [if_neg (by simpa using hd)]
        cases hparts : cs.splitOn a with
        | nil => exact absurd hparts (List.splitOn_ne_nil a cs)
        | cons first rest =>
            rw [hparts] at ih
            rw [List.modifyHead_cons]
            rcases List.mem_cons.mp h with rfl | h
            · exact .inr ⟨_, List.mem_cons_self, List.mem_cons_self⟩
            · refine (ih h).imp_right fun ⟨part, hpart, hc⟩ => ?_
              rcases List.mem_cons.mp hpart with rfl | hpart
              · exact ⟨_, List.mem_cons_self, List.mem_cons_of_mem _ hc⟩
              · exact ⟨part, List.mem_cons_of_mem _ hpart, hc⟩

theorem validPrefix_spec {cs : List Char} (h : validPrefix cs = true) : ∀ c ∈ cs, WordChar c := by
  intro c hc
  rcases mem_of_splitOn (a := '.') hc with rfl | ⟨part, hpart, hmem⟩
  · decide
  · simp only [validPrefix, Bool.and_eq_true, List.all_eq_true] at h
    have hvalid := h.2 part hpart
    simp only [validPart, Bool.and_eq_true, List.all_eq_true, Bool.or_eq_true] at hvalid
    refine wordChar_of_nameChar ?_
    rcases hvalid.1.1.2 c hmem with (hlower | hdigit) | hdash
    · have halpha : c.isAlpha = true := by
        show (c.isUpper || c.isLower) = true
        rw [hlower, Bool.or_true]
      simp [nameChar, Char.isAlphanum, halpha]
    · simp [nameChar, Char.isAlphanum, hdigit]
    · simp [nameChar, hdash]

theorem validKey_spec {key : String} (h : validKey key = true) :
    key.toList ≠ [] ∧ ∀ c ∈ key.toList, WordChar c := by
  have hparts : ∀ part ∈ key.toList.splitOn '/', ∀ c ∈ part, WordChar c := by
    unfold validKey at h
    split at h
    next name hname =>
        rw [hname]
        intro part hpart
        rw [List.mem_singleton.mp hpart]
        exact (validName_spec h).2
    next domain name hname =>
        rw [hname]
        obtain ⟨hdomain, hvalid⟩ := Bool.and_eq_true_iff.mp h
        intro part hpart
        rcases List.mem_cons.mp hpart with rfl | hpart
        · exact validPrefix_spec hdomain
        · rw [List.mem_singleton.mp hpart]
          exact (validName_spec hvalid).2
    next => cases h
  constructor
  · intro hnil
    unfold validKey at h
    rw [hnil] at h
    cases h
  · intro c hc
    rcases mem_of_splitOn (a := '/') hc with rfl | ⟨part, hpart, hmem⟩
    · decide
    · exact hparts part hpart c hmem

/-! ## What templates write -/

theorem accepted_eq_some {r : Requirement} (hkey : validKey r.key = true)
    (hvalues : ∀ value ∈ r.values, validValue value = true) (hoperands : r.operandsOk = true) :
    accepted r = some r := by
  have hall : r.values.all validValue = true := List.all_eq_true.mpr hvalues
  unfold accepted
  rw [hkey, hall, hoperands]
  rfl

theorem read_absent (key : String) (hkey : validKey key = true) :
    read ("!" ++ key) = some [⟨key, .absent, []⟩] := by
  obtain ⟨hne, hchars⟩ := validKey_spec hkey
  have htokens : tokens ("!" ++ key) = [.bang, .word key] := by
    have hlist : ("!" ++ key).toList = '!' :: (key.toList ++ []) := by
      simp
    rw [tokens, hlist, tokensFrom]
    show [] ++ tokensFrom .bang (key.toList ++ []) = _
    rw [tokensFrom_first (by simp) hne hchars]
    simp [Pending.flush, tokensFrom]
  have hrequirement : requirement [.bang, .word key] = some ⟨key, .absent, []⟩ :=
    accepted_eq_some hkey (fun _ h => absurd h List.not_mem_nil) rfl
  refine (read_some (by simp)).mpr ⟨[[.bang, .word key]], ?_, ?_⟩
  · rw [htokens]
    rfl
  · rw [List.mapM_cons, hrequirement]
    rfl

theorem read_equal {key value : String} (hkey : validKey key = true)
    (hvalue : validValue value = true) :
    read (key ++ "=" ++ value) = some [⟨key, .isIn, [value]⟩] := by
  obtain ⟨hne, hchars⟩ := validKey_spec hkey
  have hlist : (key ++ "=" ++ value).toList = key.toList ++ '=' :: value.toList := by
    simp
  have hfront : tokens (key ++ "=" ++ value) =
      .word key :: tokensFrom .equal value.toList := by
    rw [tokens, hlist, tokensFrom_first (by simp) hne hchars, tokensFrom]
    show [] ++ ([Token.word (String.ofList key.toList)] ++ _) = _
    rw [String.ofList_toList]
    rfl
  have haccepted : accepted ⟨key, .isIn, [value]⟩ = some ⟨key, .isIn, [value]⟩ :=
    accepted_eq_some hkey (by simpa using hvalue) rfl
  by_cases hempty : value = ""
  · subst hempty
    refine (read_some (by simp)).mpr ⟨[[.word key, .equal]], ?_, ?_⟩
    · rw [hfront]
      rfl
    · rw [List.mapM_cons, requirement, haccepted]
      rfl
  · obtain ⟨hvne, hvchars⟩ := validValue_spec hvalue hempty
    have hback : tokensFrom .equal value.toList = [.equal, .word value] := by
      rw [← List.append_nil value.toList, tokensFrom_first (by simp) hvne hvchars]
      simp [Pending.flush, tokensFrom]
    refine (read_some (by simp)).mpr ⟨[[.word key, .equal, .word value]], ?_, ?_⟩
    · rw [hfront, hback]
      rfl
    · rw [List.mapM_cons, requirement, haccepted]
      rfl

/-- The tokens of a list of values, up to the closing bracket. -/
def listTokens : List String → List Token
  | [] => [.closing]
  | [value] => [.word value, .closing]
  | value :: values => .word value :: .comma :: listTokens values

theorem listTokens_cons (hne : values ≠ []) :
    listTokens (value :: values) = .word value :: .comma :: listTokens values := by
  cases values with
  | nil => exact absurd rfl hne
  | cons next values => rfl

theorem listed_listTokens (hne : values ≠ []) : listed (listTokens values) = some values := by
  induction values with
  | nil => exact absurd rfl hne
  | cons value values ih =>
      cases values with
      | nil => rfl
      | cons next values =>
          rw [listTokens_cons (List.cons_ne_nil _ _), listed, ih (List.cons_ne_nil _ _)]
          rfl

theorem requirement_notIn {key : String} (hne : values ≠ []) :
    requirement (.word key :: .word "notin" :: .opening :: listTokens values) =
      (listed (listTokens values)).bind fun values => accepted ⟨key, .notIn, values⟩ := by
  have hoperator : ("notin" : String) ≠ "in" := by
    decide
  cases values with
  | nil => exact absurd rfl hne
  | cons value values =>
      cases values with
      | nil =>
          rw [listTokens, requirement, if_neg hoperator, if_pos rfl]
          simp
      | cons next values =>
          rw [listTokens_cons (List.cons_ne_nil _ _), requirement, if_neg hoperator, if_pos rfl]
          simp

/-- Commas in brackets separate no requirements. -/
theorem segments_listTokens (values : List String) :
    segments true (listTokens values) = some [listTokens values] := by
  induction values with
  | nil => rfl
  | cons value values ih =>
      cases values with
      | nil => rfl
      | cons next values =>
          rw [listTokens_cons (List.cons_ne_nil _ _)]
          simp only [segments, within, ih]
          rfl

theorem tokensFrom_listTokens (hne : values ≠ [])
    (hvalues : ∀ value ∈ values, validValue value = true ∧ value ≠ "") :
    tokensFrom .nothing ((",".intercalate values).toList ++ [')']) = listTokens values := by
  induction values with
  | nil => exact absurd rfl hne
  | cons value values ih =>
      obtain ⟨hvalid, hempty⟩ := hvalues value List.mem_cons_self
      obtain ⟨hword, hchars⟩ := validValue_spec hvalid hempty
      cases values with
      | nil =>
          rw [String.intercalate_singleton, tokensFrom_first (by simp) hword hchars, tokensFrom]
          show [] ++ ([Token.word (String.ofList value.toList)] ++ [.closing] ++ []) = _
          rw [String.ofList_toList]
          rfl
      | cons next values =>
          have hlist : (",".intercalate (value :: next :: values)).toList ++ [')'] =
              value.toList ++ ',' :: ((",".intercalate (next :: values)).toList ++ [')']) := by
            rw [String.intercalate_cons_cons]
            simp
          rw [hlist, tokensFrom_first (by simp) hword hchars, tokensFrom]
          show [] ++ ([Token.word (String.ofList value.toList)] ++ [.comma] ++
            tokensFrom .nothing ((",".intercalate (next :: values)).toList ++ [')'])) = _
          rw [ih (List.cons_ne_nil _ _) fun v hv => hvalues v (List.mem_cons_of_mem _ hv),
            String.ofList_toList, listTokens_cons (List.cons_ne_nil _ _)]
          rfl

theorem read_notIn {key : String} (hkey : validKey key = true) (hne : values ≠ [])
    (hvalues : ∀ value ∈ values, validValue value = true ∧ value ≠ "") :
    read (key ++ " notin (" ++ ",".intercalate values ++ ")") =
      some [⟨key, .notIn, values⟩] := by
  obtain ⟨hkne, hchars⟩ := validKey_spec hkey
  have hlist : (key ++ " notin (" ++ ",".intercalate values ++ ")").toList =
      key.toList ++ ' ' :: ("notin".toList ++
        ' ' :: '(' :: ((",".intercalate values).toList ++ [')'])) := by
    simp
  have hnotin : ∀ c ∈ "notin".toList, WordChar c := by
    have hall : "notin".toList.all nameChar = true := by decide
    exact fun c hc => wordChar_of_nameChar (List.all_eq_true.mp hall c hc)
  have htokens : tokens (key ++ " notin (" ++ ",".intercalate values ++ ")") =
      .word key :: .word "notin" :: .opening :: listTokens values := by
    rw [tokens, hlist, tokensFrom_first (by simp) hkne hchars, tokensFrom]
    show [] ++ ([Token.word (String.ofList key.toList)] ++ tokensFrom .nothing
      ("notin".toList ++ ' ' :: '(' :: ((",".intercalate values).toList ++ [')']))) = _
    rw [String.ofList_toList, tokensFrom_first (by simp) (by decide) hnotin,
      ← tokensFrom_listTokens hne hvalues]
    rfl
  refine (read_some (by simp)).mpr
    ⟨[.word key :: .word "notin" :: .opening :: listTokens values], ?_, ?_⟩
  · rw [htokens]
    simp only [segments, within, segments_listTokens]
    rfl
  · have haccepted : accepted ⟨key, .notIn, values⟩ = some ⟨key, .notIn, values⟩ :=
      accepted_eq_some hkey (fun value hvalue => (hvalues value hvalue).1)
        (by simpa [Requirement.operandsOk] using hne)
    rw [List.mapM_cons, requirement_notIn hne, listed_listTokens hne, Option.bind_some, haccepted]
    rfl

theorem read_reads : Reads read where
  empty := rfl
  equal _ _ := read_equal
  notIn _ _ := read_notIn
  absent := read_absent
  join _ _ _ _ := read_join

end KataDeviceProvisioner.Verified.Selector
