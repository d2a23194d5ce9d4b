import KataDeviceProvisioner.Verified.Sprig

/-!
# What a profile is called

`profileSlug` and the names built from it, in
`deploy/helm/kata-device-provisioner/templates/_helpers.tpl`.  A profile's map
key is folded to a DNS label; a key that folding or cutting changes gets a hash
of what it was, and so does a resource name that is cut.

A key that needs neither is its own slug, and nothing keeps such a key from
being spelled like the slug of another (`Shadows`).
-/

namespace KataDeviceProvisioner.Ports.Chart

open KataDeviceProvisioner.Verified KataDeviceProvisioner.Verified.Sprig

/-- The template functions that rest on Unicode tables and on SHA-256. -/
structure Library where
  lower : String → String
  sha256sum : String → String

/-- `[a-z0-9-]` -/
def slugChar (c : Char) : Bool :=
  (decide ('a'.toNat ≤ c.toNat) && decide (c.toNat ≤ 'z'.toNat)) ||
    (decide ('0'.toNat ≤ c.toNat) && decide (c.toNat ≤ '9'.toNat)) || c == '-'

/-- What the names rely on. -/
structure Library.Documented (lib : Library) : Prop where
  /-- Lower-casing changes nothing but letters that are not lower case. -/
  lower_eq : ∀ s : String, (∀ c ∈ s.toList, slugChar c = true) → lib.lower s = s
  digest_length : ∀ s, (lib.sha256sum s).toList.length = 64
  digest_hex : ∀ s, ∀ c ∈ (lib.sha256sum s).toList, Text.IsHexChar c

variable (lib : Library)

/-- `.Chart.Name` -/
def chartName : String := "kata-device-provisioner"

/-- Cut text, and what tells it from other text cut to the same. -/
def cutAndHash (n : Nat) (text : String) (hashed : String) : String :=
  trimSuffix "-" (trunc n text) ++ "-" ++ trunc 8 (lib.sha256sum hashed)

/-- `$slug`, before it is compared with the key. -/
def folded (key : String) : String :=
  let slug := trimAll '-' (foldRuns slugChar '-' (lib.lower key))
  if slug = "" then "profile" else slug

def profileSlug (key : String) : String :=
  let slug := folded lib key
  if slug ≠ key ∨ slug.toList.length > 63 then cutAndHash lib 54 slug key else slug

/-- `printf "%s-%s-%s"` of chart, profile and suffix. -/
def fullName (key suffix : String) : String :=
  chartName ++ "-" ++ profileSlug lib key ++ ("-" ++ suffix)

def profileResourceName (key suffix : String) : String :=
  let name := fullName lib key suffix
  if name.toList.length > 63 then cutAndHash lib 54 name name else name

/-- The `profile` label, which a profile with an empty name goes without. -/
def profileLabel (key : String) : Option String :=
  if key = "" then none else some (profileSlug lib key)

/-- `--multi-install-suffix`, which marks the nodes a profile owns. -/
def multiInstallSuffix (key : String) : String := profileSlug lib key

/-- The label `renderProfiles` gives a profile that names none. -/
def defaultStateLabel (key : String) : String :=
  "kata-device-provisioner.katacontainers.io/" ++
    (cutAndHash lib 47 (profileSlug lib key) key ++ "-state")

def profileJobPrefix (profilePrefix key : String) : String :=
  profilePrefix ++ "-" ++ trimSuffix "-" (trunc 6 (profileSlug lib key)) ++ "-" ++
    trunc 6 (lib.sha256sum key)

/-- Every suffix the chart names a resource with. -/
def resourceSuffixes : List String :=
  [ "job-templates", "provision-dispatcher", "provision-off-dispatcher"
  , "provision-on-dispatcher", "provision-devtools-dispatcher"
  , "provision-ppcie-dispatcher", "unprovision-dispatcher" ]

/-! ## Slugs -/

/-- A key that folding and cutting leave alone. -/
structure IsLabel (key : String) : Prop where
  nonempty : key ≠ ""
  chars : ∀ c ∈ key.toList, slugChar c = true
  first : key.toList.head? ≠ some '-'
  last : key.toList.getLast? ≠ some '-'
  short : key.toList.length ≤ 63

/-- `key` is its own slug, and spelled like the one `other` is given. -/
def Shadows (key other : String) : Prop :=
  IsLabel key ∧ ¬IsLabel other ∧ key = cutAndHash lib 54 (folded lib other) other

variable {lib} {key other : String}

variable (lib) in
theorem folded_label (key : String) : folded lib key ≠ "" ∧
    (∀ c ∈ (folded lib key).toList, slugChar c = true) ∧
      (folded lib key).toList.head? ≠ some '-' ∧ (folded lib key).toList.getLast? ≠ some '-' := by
  unfold folded
  by_cases hempty : trimAll '-' (foldRuns slugChar '-' (lib.lower key)) = ""
  · rw [if_pos hempty]
    have hall : "profile".toList.all slugChar = true := by decide
    exact ⟨by decide, List.all_eq_true.mp hall, by decide, by decide⟩
  · rw [if_neg hempty]
    refine ⟨hempty, fun c hc => ?_, trimAll_ends _ _⟩
    rcases mem_foldRuns (mem_trimAll hc) with hkeep | rfl
    · exact hkeep
    · decide

theorem folded_eq_self (hlib : lib.Documented) (h : IsLabel key) : folded lib key = key := by
  have htrim : trimAll '-' (foldRuns slugChar '-' (lib.lower key)) = key := by
    rw [hlib.lower_eq key h.chars, foldRuns_of_all h.chars, trimAll_eq_self h.first h.last]
  unfold folded
  rw [htrim, if_neg h.nonempty]

theorem profileSlug_of_isLabel (hlib : lib.Documented) (h : IsLabel key) :
    profileSlug lib key = key := by
  have hshort := h.short
  unfold profileSlug
  rw [folded_eq_self hlib h, if_neg]
  intro hor
  rcases hor with hne | hlong
  · exact hne rfl
  · omega

theorem profileSlug_of_not_isLabel (h : ¬IsLabel key) :
    profileSlug lib key = cutAndHash lib 54 (folded lib key) key := by
  unfold profileSlug
  rw [if_pos]
  by_contra hnot
  obtain ⟨heq, hshort⟩ := not_or.mp hnot
  have hself : folded lib key = key := not_not.mp heq
  obtain ⟨hnonempty, hchars, hfirst, hlast⟩ := folded_label lib key
  rw [hself] at hnonempty hchars hfirst hlast hshort
  exact h ⟨hnonempty, hchars, hfirst, hlast, by omega⟩

/-! ## Hashes -/

theorem cutAndHash_toList (n : Nat) (a s : String) :
    (cutAndHash lib n a s).toList =
      (trimSuffix "-" (trunc n a) ++ "-").toList ++ (trunc 8 (lib.sha256sum s)).toList := by
  rw [cutAndHash, String.toList_append]

theorem length_hash (hlib : lib.Documented) (s : String) :
    (trunc 8 (lib.sha256sum s)).toList.length = 8 := by
  refine length_trunc ?_
  have := hlib.digest_length s
  omega

/-- Names that end in their hashes are told apart by them. -/
theorem hash_eq (hlib : lib.Documented) {n m : Nat} {a b s t : String}
    (h : cutAndHash lib n a s = cutAndHash lib m b t) :
    trunc 8 (lib.sha256sum s) = trunc 8 (lib.sha256sum t) := by
  have hlist := congrArg String.toList h
  rw [cutAndHash_toList, cutAndHash_toList] at hlist
  refine String.toList_inj.mp (List.append_inj_right' hlist ?_)
  rw [length_hash hlib, length_hash hlib]

/-! ## Resource names -/

theorem fullName_toList (key suffix : String) :
    (fullName lib key suffix).toList =
      (chartName ++ "-" ++ profileSlug lib key).toList ++ ("-" ++ suffix).toList := by
  rw [fullName, String.toList_append]

/-- No suffix ends in another. -/
theorem suffix_free {s t : String} (hs : s ∈ resourceSuffixes) (ht : t ∈ resourceSuffixes)
    (h : ("-" ++ s).toList <:+ ("-" ++ t).toList) : s = t := by
  have hall : ∀ s ∈ resourceSuffixes, ∀ t ∈ resourceSuffixes,
      ("-" ++ s).toList <:+ ("-" ++ t).toList → s = t := by
    decide +kernel
  exact hall s hs t ht h

theorem fullName_inj {s t : String} (hs : s ∈ resourceSuffixes) (ht : t ∈ resourceSuffixes)
    (h : fullName lib key s = fullName lib other t) :
    profileSlug lib key = profileSlug lib other := by
  have hlist := congrArg String.toList h
  rw [fullName_toList, fullName_toList] at hlist
  have hsame : s = t := by
    have hsuffix : ("-" ++ s).toList <:+
        (chartName ++ "-" ++ profileSlug lib other).toList ++ ("-" ++ t).toList := by
      rw [← hlist]
      exact List.suffix_append _ _
    rcases List.suffix_or_suffix_of_suffix hsuffix (List.suffix_append _ _) with hst | hts
    · exact suffix_free hs ht hst
    · exact (suffix_free ht hs hts).symm
  subst hsame
  have hfront := List.append_cancel_right hlist
  have hslugs : (chartName ++ "-").toList ++ (profileSlug lib key).toList =
      (chartName ++ "-").toList ++ (profileSlug lib other).toList := by
    rw [← String.toList_append, ← String.toList_append, hfront]
  exact String.toList_inj.mp (List.append_cancel_left hslugs)

/-- A name that was cut ends in a hash, and one that was not does not. -/
theorem cut_ne_fullName (hlib : lib.Documented) {n : Nat} {a b s : String}
    (hs : s ∈ resourceSuffixes) : cutAndHash lib n a b ≠ fullName lib key s := by
  intro h
  have hlist := congrArg String.toList h
  rw [cutAndHash_toList, fullName_toList] at hlist
  have hlong : ∀ s ∈ resourceSuffixes, 8 ≤ ("-" ++ s).toList.length ∧
      (("-" ++ s).toList.drop (("-" ++ s).toList.length - 8)).any
        (fun c => (Text.hexValue c).isNone) = true := by
    decide +kernel
  obtain ⟨hlength, hany⟩ := hlong s hs
  obtain ⟨c, hc, hisNone⟩ := List.any_eq_true.mp hany
  have hnone : Text.hexValue c = none := Option.isNone_iff_eq_none.mp hisNone
  have hsuffix : (trunc 8 (lib.sha256sum b)).toList <:+ ("-" ++ s).toList := by
    have hhash : (trunc 8 (lib.sha256sum b)).toList <:+
        (chartName ++ "-" ++ profileSlug lib key).toList ++ ("-" ++ s).toList := by
      rw [← hlist]
      exact List.suffix_append _ _
    refine List.suffix_of_suffix_length_le hhash (List.suffix_append _ _) ?_
    rw [length_hash hlib]
    exact hlength
  have hdrop := List.suffix_iff_eq_drop.mp hsuffix
  rw [length_hash hlib] at hdrop
  rw [← hdrop] at hc
  have hhex := hlib.digest_hex b c (mem_trunc hc)
  rw [Text.IsHexChar, hnone] at hhex
  cases hhex

/-- Resource names are told apart by slug and suffix. -/
theorem profileResourceName_inj (hlib : lib.Documented) {s t : String}
    (hs : s ∈ resourceSuffixes) (ht : t ∈ resourceSuffixes)
    (hhash : trunc 8 (lib.sha256sum (fullName lib key s)) =
      trunc 8 (lib.sha256sum (fullName lib other t)) → fullName lib key s = fullName lib other t)
    (h : profileResourceName lib key s = profileResourceName lib other t) :
    profileSlug lib key = profileSlug lib other := by
  unfold profileResourceName at h
  by_cases hkey : (fullName lib key s).toList.length > 63
  · by_cases hother : (fullName lib other t).toList.length > 63
    · rw [if_pos hkey, if_pos hother] at h
      exact fullName_inj hs ht (hhash (hash_eq hlib h))
    · rw [if_pos hkey, if_neg hother] at h
      exact absurd h (cut_ne_fullName hlib ht)
  · by_cases hother : (fullName lib other t).toList.length > 63
    · rw [if_neg hkey, if_pos hother] at h
      exact absurd h.symm (cut_ne_fullName hlib hs)
    · rw [if_neg hkey, if_neg hother] at h
      exact fullName_inj hs ht h

/-! ## Two profiles -/

/-- Two profiles share no name, no label and no mark of ownership. -/
structure Apart (lib : Library) (key other : String) : Prop where
  slug : profileSlug lib key ≠ profileSlug lib other
  instance_suffix : multiInstallSuffix lib key ≠ multiInstallSuffix lib other
  label : profileLabel lib key ≠ profileLabel lib other
  state : defaultStateLabel lib key ≠ defaultStateLabel lib other
  resource : ∀ s ∈ resourceSuffixes, ∀ t ∈ resourceSuffixes,
    profileResourceName lib key s ≠ profileResourceName lib other t

/-- What is hashed for a profile. -/
def hashedFor (lib : Library) (key : String) : List String :=
  key :: resourceSuffixes.map (fullName lib key)

/-- The hashes of two profiles differ where what is hashed does. -/
def HashesApart (lib : Library) (key other : String) : Prop :=
  ∀ s ∈ hashedFor lib key ++ hashedFor lib other,
    ∀ t ∈ hashedFor lib key ++ hashedFor lib other,
      trunc 8 (lib.sha256sum s) = trunc 8 (lib.sha256sum t) → s = t

theorem fullName_mem_hashedFor {s : String} (hs : s ∈ resourceSuffixes) :
    fullName lib key s ∈ hashedFor lib key :=
  List.mem_cons_of_mem _ (List.mem_map_of_mem hs)

section Pair

variable (hhash : HashesApart lib key other) (hne : key ≠ other)

include hhash hne

theorem key_hash_ne : trunc 8 (lib.sha256sum key) ≠ trunc 8 (lib.sha256sum other) := by
  intro h
  refine hne (hhash key ?_ other ?_ h)
  · exact List.mem_append_left _ List.mem_cons_self
  · exact List.mem_append_right _ List.mem_cons_self

variable (hlib : lib.Documented)

include hlib

theorem profileSlug_ne_iff : profileSlug lib key ≠ profileSlug lib other ↔
    ¬Shadows lib key other ∧ ¬Shadows lib other key := by
  have hhashes := key_hash_ne hhash hne
  by_cases hkey : IsLabel key
  · by_cases hother : IsLabel other
    · rw [profileSlug_of_isLabel hlib hkey, profileSlug_of_isLabel hlib hother]
      exact ⟨fun _ => ⟨fun h => h.2.1 hother, fun h => h.2.1 hkey⟩, fun _ => hne⟩
    · rw [profileSlug_of_isLabel hlib hkey, profileSlug_of_not_isLabel hother]
      exact ⟨fun h => ⟨fun hs => h hs.2.2, fun hs => hother hs.1⟩,
        fun h heq => h.1 ⟨hkey, hother, heq⟩⟩
  · by_cases hother : IsLabel other
    · rw [profileSlug_of_not_isLabel hkey, profileSlug_of_isLabel hlib hother]
      exact ⟨fun h => ⟨fun hs => hkey hs.1, fun hs => h hs.2.2.symm⟩,
        fun h heq => h.2 ⟨hother, hkey, heq.symm⟩⟩
    · rw [profileSlug_of_not_isLabel hkey, profileSlug_of_not_isLabel hother]
      exact ⟨fun _ => ⟨fun hs => hkey hs.1, fun hs => hother hs.1⟩,
        fun _ heq => hhashes (hash_eq hlib heq)⟩

/-- The default state label carries a hash of the key whether the slug does or
not. -/
theorem defaultStateLabel_ne : defaultStateLabel lib key ≠ defaultStateLabel lib other := by
  intro h
  unfold defaultStateLabel at h
  exact key_hash_ne hhash hne (hash_eq hlib (append_between_inj _ _ h))

/-- Two profiles are apart unless the key of one is its own slug and is spelled
like the slug the other is given. -/
theorem profiles_apart_iff :
    Apart lib key other ↔ ¬Shadows lib key other ∧ ¬Shadows lib other key := by
  constructor
  · intro h
    exact (profileSlug_ne_iff hhash hne hlib).mp h.slug
  · intro h
    have hslug := (profileSlug_ne_iff hhash hne hlib).mpr h
    have hlabel : profileLabel lib key ≠ profileLabel lib other := by
      unfold profileLabel
      by_cases hkey : key = ""
      · rw [if_pos hkey, if_neg fun hother => hne (hkey.trans hother.symm)]
        simp
      · by_cases hother : other = ""
        · rw [if_neg hkey, if_pos hother]
          simp
        · rw [if_neg hkey, if_neg hother]
          exact fun heq => hslug (Option.some.inj heq)
    have hresource : ∀ s ∈ resourceSuffixes, ∀ t ∈ resourceSuffixes,
        profileResourceName lib key s ≠ profileResourceName lib other t := by
      intro s hs t ht heq
      refine hslug (profileResourceName_inj hlib hs ht (hhash _ ?_ _ ?_) heq)
      · exact List.mem_append_left _ (fullName_mem_hashedFor hs)
      · exact List.mem_append_right _ (fullName_mem_hashedFor ht)
    exact
      { slug := hslug
        instance_suffix := hslug
        label := hlabel
        state := defaultStateLabel_ne hhash hne hlib
        resource := hresource }

end Pair

/-! ## A key that is spelled like a slug -/

/-- The digests of what is hashed for two profiles `Foo` and `foo-1cbec737`. -/
def fooDigests : List (String × List UInt16) :=
  [ ("Foo",
     [0x1cbe, 0xc737, 0xf863, 0xe492, 0x2cee, 0x63cc, 0x2ebb, 0xfaaf,
      0xcd1c, 0xff8b, 0x790d, 0x8cfd, 0x2e6a, 0x5d55, 0x0b64, 0x8afa])
  , ("foo-1cbec737",
     [0x0807, 0xdece, 0xaea4, 0x8247, 0xd263, 0xb3ba, 0xa5dd, 0x9110,
      0xb37c, 0x53ca, 0x8efd, 0x9bcf, 0x9145, 0x2e5c, 0x5589, 0xdf81])
  , ("kata-device-provisioner-foo-1cbec737-job-templates",
     [0xc050, 0xa5e2, 0xa0ef, 0xa280, 0x1977, 0xe264, 0xd2cc, 0x2a3e,
      0x78ff, 0x72f4, 0x6d6a, 0xbc48, 0x6a19, 0x0b4d, 0xba13, 0xa3e0])
  , ("kata-device-provisioner-foo-1cbec737-provision-dispatcher",
     [0xb230, 0x7800, 0x149b, 0x1df7, 0xf686, 0xaf1e, 0x2156, 0x5c4c,
      0x7858, 0xb3a0, 0xe247, 0x1944, 0xf4b2, 0x69bc, 0x8d4f, 0xac66])
  , ("kata-device-provisioner-foo-1cbec737-provision-off-dispatcher",
     [0x6efc, 0x9946, 0x2329, 0xa6b1, 0x9d05, 0x8b7a, 0x3f4c, 0x4250,
      0x570f, 0x0f94, 0x8704, 0x77cd, 0x57dc, 0x4906, 0xb57b, 0x507e])
  , ("kata-device-provisioner-foo-1cbec737-provision-on-dispatcher",
     [0xa731, 0xc9f8, 0xa0d3, 0x0e73, 0x83c1, 0x18b5, 0x4e2f, 0x6c1b,
      0x28ac, 0x6792, 0xec73, 0x8175, 0xab95, 0xa9af, 0x3503, 0xb6e6])
  , ("kata-device-provisioner-foo-1cbec737-provision-devtools-dispatcher",
     [0x116a, 0xce35, 0x4b9c, 0x7922, 0xb296, 0x252f, 0xa0d5, 0x14ec,
      0x3272, 0x543b, 0xdb15, 0x48eb, 0xfa80, 0x960c, 0x44fa, 0xcc45])
  , ("kata-device-provisioner-foo-1cbec737-provision-ppcie-dispatcher",
     [0x5f46, 0xe547, 0x7cb1, 0xc015, 0xade1, 0xbf1a, 0x9222, 0xd874,
      0x3a3e, 0x3052, 0xfda9, 0xadff, 0x354b, 0x143a, 0xee48, 0x0496])
  , ("kata-device-provisioner-foo-1cbec737-unprovision-dispatcher",
     [0x5f4b, 0x423d, 0xf02d, 0x5af0, 0x17f3, 0x69c7, 0x430a, 0x59a1,
      0xbee0, 0x2a2c, 0x3c79, 0x5771, 0x4e72, 0x3e8d, 0x0d82, 0x18e2]) ]

/-- The digest of the empty text. -/
def emptyDigest : List UInt16 :=
  [0xe3b0, 0xc442, 0x98fc, 0x1c14, 0x9afb, 0xf4c8, 0x996f, 0xb924,
      0x27ae, 0x41e4, 0x649b, 0x934c, 0xa495, 0x991b, 0x7852, 0xb855]

/-- Lower-casing of ASCII letters, and the digests above. -/
def fooLibrary : Library where
  lower s := String.ofList (s.toList.map Char.toLower)
  sha256sum s :=
    String.ofList (((fooDigests.lookup s).getD emptyDigest).flatMap Text.hex4Chars)

theorem toLower_slugChar {c : Char} (h : slugChar c = true) : c.toLower = c := by
  unfold Char.toLower
  rw [dif_neg]
  intro ⟨hfirst, hlast⟩
  have hlow : 65 ≤ c.toNat := hfirst
  have hhigh : c.toNat ≤ 90 := hlast
  simp only [slugChar, Bool.or_eq_true, Bool.and_eq_true, decide_eq_true_eq, beq_iff_eq] at h
  rcases h with (⟨hlower, _⟩ | ⟨_, hdigit⟩) | rfl
  · have : 97 ≤ c.toNat := hlower
    omega
  · have : c.toNat ≤ 57 := hdigit
    omega
  · exact absurd hlow (by decide)

theorem fooLibrary_documented : fooLibrary.Documented := by
  have hwords : ∀ s, ((fooDigests.lookup s).getD emptyDigest).length = 16 := by
    have hall : ∀ entry ∈ fooDigests, entry.2.length = 16 := by decide
    intro s
    cases hfound : fooDigests.lookup s with
    | none => rfl
    | some digest =>
        obtain ⟨front, back, htable, _⟩ := List.lookup_eq_some_iff.mp hfound
        refine hall (s, digest) ?_
        rw [htable]
        exact List.mem_append_right _ List.mem_cons_self
  exact
    { lower_eq := by
        intro s h
        have hfix : s.toList.map Char.toLower = s.toList := by
          rw [List.map_congr_left (g := id), List.map_id]
          intro c hc
          exact toLower_slugChar (h c hc)
        show String.ofList (s.toList.map Char.toLower) = s
        rw [hfix, String.ofList_toList]
      digest_length := by
        intro s
        simp only [fooLibrary, String.toList_ofList, Text.length_flatMap_hex4Chars, hwords s]
      digest_hex := by
        intro s c hc
        simp only [fooLibrary, String.toList_ofList] at hc
        obtain ⟨w, _, hw⟩ := List.mem_flatMap.mp hc
        exact Text.isHexChar_of_mem_hex4 hw }

theorem foo_hashesApart : HashesApart fooLibrary "foo-1cbec737" "Foo" := by
  have hnames : ∀ s ∈ hashedFor fooLibrary "foo-1cbec737" ++ hashedFor fooLibrary "Foo",
      s ∈ fooDigests.map (·.1) := by
    decide +kernel
  have hnodup : ((fooDigests.map (·.1)).map fun s =>
      (((fooDigests.lookup s).getD emptyDigest).flatMap Text.hex4Chars).take 8).Nodup := by
    decide +kernel
  intro s hs t ht h
  refine List.inj_on_of_nodup_map hnodup (hnames s hs) (hnames t ht) ?_
  have hlist := congrArg String.toList h
  simpa only [trunc, fooLibrary, String.toList_ofList] using hlist

theorem profiles_apart_iff_foo :
    Apart fooLibrary "foo-1cbec737" "Foo" ↔
      ¬Shadows fooLibrary "foo-1cbec737" "Foo" ∧ ¬Shadows fooLibrary "Foo" "foo-1cbec737" :=
  profiles_apart_iff foo_hashesApart (by decide) fooLibrary_documented

/-- The profiles `Foo` and `foo-1cbec737` share a slug. -/
theorem foo_not_apart : "foo-1cbec737" ≠ "Foo" ∧ fooLibrary.Documented ∧
    HashesApart fooLibrary "foo-1cbec737" "Foo" ∧
    profileSlug fooLibrary "foo-1cbec737" = profileSlug fooLibrary "Foo" ∧
    ¬Apart fooLibrary "foo-1cbec737" "Foo" := by
  have hshared : profileSlug fooLibrary "foo-1cbec737" = profileSlug fooLibrary "Foo" := by
    decide +kernel
  exact ⟨by decide, fooLibrary_documented, foo_hashesApart, hshared, fun h => h.slug hshared⟩

end KataDeviceProvisioner.Ports.Chart
