import Mathlib.Data.List.Infix
import PathTemplate.Proofs.Text
import PathTemplate.Regex.Atom

/-!
# PropertyName — what the name of a Unicode property is made of

The names of properties and of their values are looked up in tables, and blanks, hyphens and
underscores are all that the lookup leaves out.  So a name that is found has none of the characters
that open or close a class or a group or escape another character.

- `IsPlain` : none of these characters
- `Unicode.plain_of_property?`, `plain_of_propertyValue?` : names that are found
- `plain_of_propertyTables?` : what stands between the braces of a property
-/

namespace PathTemplate

/-- A character that neither escapes another one nor opens a group nor opens or closes a class. -/
def IsPlain (c : Char) : Prop := c ∉ ['\\', '[', ']', '(']

instance : DecidablePred IsPlain := fun _ => inferInstanceAs (Decidable (¬ _))

theorem IsPlain.of_ne {p : Char → Bool} {c : Char} (hc : p c = true)
    (h : ['\\', '[', ']', '('].any p = false) : IsPlain c := by
  intro hmem
  exact List.any_eq_false.mp h c hmem hc

namespace RegexReader

def Plain (w : Text) : Prop := ∀ c ∈ w, IsPlain c

instance : DecidablePred Plain := fun w => List.decidableBAll IsPlain w

theorem Plain.nil : Plain [] := List.forall_mem_nil _

theorem Plain.cons {c : Char} {w : Text} (hc : IsPlain c) (hw : Plain w) : Plain (c :: w) :=
  List.forall_mem_cons.mpr ⟨hc, hw⟩

theorem Plain.append {u w : Text} (hu : Plain u) (hw : Plain w) : Plain (u ++ w) :=
  List.forall_mem_append.mpr ⟨hu, hw⟩

end RegexReader

namespace Unicode

open RegexReader (Plain)

variable {name value : Text} {c : Char} {entries : List NamedRanges} {ts : List RangeTable}

/-! ## Loose names -/

theorem orElse_eq_some {α : Type} {x y : Option α} {a : α} :
    (x.orElse fun _ => y) = some a ↔ x = some a ∨ x = none ∧ y = some a := by
  cases x <;> simp

/-- Only what is plain is left out of a name or changed. -/
theorem mem_looseName (hc : ¬ IsPlain c) (hmem : c ∈ name) : c ∈ looseName name := by
  have hall : ∀ c ∈ ['\\', '[', ']', '('], c.toNat < 0x80 ∧ c ≠ ' ' ∧ c ≠ '_' ∧ c ≠ '-' ∧
      c.toLower = c ∧ c ≠ 'c' ∧ c ≠ 'i' ∧ c ≠ 's' := by
    simp
  rcases hall c (not_not.mp hc) with
    ⟨hascii, hblank, hunderscore, hhyphen, hlower, hcee, hi, hs⟩
  have hfold {t : Text} (ht : c ∈ t) :
      c ∈ (t.filter fun c => c.toNat < 0x80 && c != ' ' && c != '_' && c != '-').map
        Char.toLower := by
    refine List.mem_map.mpr ⟨c, List.mem_filter.mpr ⟨ht, ?_⟩, hlower⟩
    simp [hascii, hblank, hunderscore, hhyphen]
  unfold looseName
  split
  case h_1 a b rest =>
    split
    case isFalse => exact hfold hmem
    case isTrue his =>
      simp only [Bool.and_eq_true, decide_eq_true_eq] at his
      -- The letters that are left out are no such character.
      have hrest : c ∈ rest := by
        rcases List.mem_cons.mp hmem with rfl | hmem
        · exact absurd (hlower ▸ his.1) hi
        · rcases List.mem_cons.mp hmem with rfl | hmem
          · exact absurd (hlower ▸ his.2) hs
          · exact hmem
      have hshort := hfold hrest
      dsimp only
      split
      case isTrue hisc =>
        rw [hisc] at hshort
        exact absurd (List.mem_singleton.mp hshort) hcee
      case isFalse => exact hshort
  case h_2 => exact hfold hmem

theorem isPlain_toLower (hc : IsPlain c) : IsPlain c.toLower := by
  have hall : ∀ d ∈ ['\\', '[', ']', '('], d.val.toNat < 97 := by simp
  unfold Char.toLower
  split
  case isFalse => exact hc
  case isTrue hupper =>
    -- The code is that of a small letter, and those come later.
    intro hmem
    have hlt := hall _ hmem
    have hlow : 65 ≤ c.val.toNat := hupper.1
    have hhigh : c.val.toNat ≤ 90 := hupper.2
    have hsum : (c.val + ('a'.val - 'A'.val)).toNat = (c.val.toNat + 32) % 2 ^ 32 := rfl
    rw [hsum] at hlt
    omega

theorem plain_looseName (h : Plain name) : Plain (looseName name) := by
  have hfold {t : Text} (ht : Plain t) :
      Plain ((t.filter fun c => c.toNat < 0x80 && c != ' ' && c != '_' && c != '-').map
        Char.toLower) := by
    intro c hc
    rcases List.mem_map.mp hc with ⟨d, hd, rfl⟩
    exact isPlain_toLower (ht d (List.mem_filter.mp hd).1)
  unfold looseName
  split
  case h_1 a b rest =>
    split
    case isFalse => exact hfold h
    case isTrue =>
      dsimp only
      split
      case isTrue => exact (by decide : Plain ['i', 's', 'c'])
      case isFalse =>
        exact hfold fun c hc => h c (List.mem_cons_of_mem a (List.mem_cons_of_mem b hc))
  case h_2 => exact hfold h

/-! ## The tables -/

def isSpecialOctet (b : UInt8) : Bool := [0x5C, 0x5B, 0x5D, 0x28].contains b

/-- Names that have none of these characters; it can be seen from their octets. -/
def PlainNames (names : List String) : Prop :=
  ∀ n ∈ names, n.toByteArray.data.toList.any isSpecialOctet = false

instance : DecidablePred PlainNames := fun names =>
  inferInstanceAs (Decidable (∀ n ∈ names, n.toByteArray.data.toList.any isSpecialOctet = false))

theorem plain_of_octets {s : String}
    (h : s.toByteArray.data.toList.any isSpecialOctet = false) : Plain s.toList := by
  intro c hc hmem
  have hall : ['\\', '[', ']', '('].all
      (fun c => (String.utf8EncodeChar c).any isSpecialOctet) = true := by
    decide
  obtain ⟨b, hb, hoctet⟩ := List.any_eq_true.mp (List.all_eq_true.mp hall c hmem)
  have hmem' : b ∈ s.toByteArray.data.toList := by
    rw [← String.utf8Encode_toList, List.utf8Encode]
    simpa using ⟨c, hc, hb⟩
  exact List.any_eq_false.mp h b hmem' hoctet

theorem plain_of_isNamed {names : List String} (hnames : PlainNames names)
    (h : isNamed names name = true) : Plain name := by
  rcases List.any_eq_true.mp h with ⟨n, hn, heq⟩
  exact eq_of_beq heq ▸ plain_looseName (plain_of_octets (hnames n hn))

theorem plain_of_findNamed (hentries : ∀ e ∈ entries, PlainNames e.1)
    (h : findNamed entries name = some ts) : Plain name := by
  rcases Option.map_eq_some_iff.mp h with ⟨e, hfind, _⟩
  exact plain_of_isNamed (hentries e (List.mem_of_find?_eq_some hfind))
    (List.find?_some (p := fun e : NamedRanges => isNamed e.1 name) hfind)

theorem plainNames_generalCategories : ∀ e ∈ generalCategories, PlainNames e.1 := by
  decide +kernel

theorem plainNames_categoryGroups : ∀ e ∈ categoryGroups, PlainNames e.1 := by decide +kernel

theorem plainNames_binaryProperties : ∀ e ∈ binaryProperties, PlainNames e.1 := by decide +kernel

theorem plainNames_scripts : ∀ e ∈ scripts, PlainNames e.1 := by decide +kernel

theorem plainNames_scriptExtensions : ∀ e ∈ scriptExtensions, PlainNames e.1 := by decide +kernel

theorem plainNames_ages : ∀ e ∈ ages, PlainNames e.1 := by decide +kernel

theorem plainNames_breaks : ∀ e ∈ graphemeBreaks ++ wordBreaks ++ sentenceBreaks,
    PlainNames e.1 := by
  decide +kernel

/-! ## Names that are found -/

theorem plain_of_category? (h : category? name = some ts) : Plain name := by
  have hwords : ∀ w ∈ ["any", "ascii", "assigned"], Plain w.toList := by decide +kernel
  unfold category? at h
  split at h
  case isTrue hany => exact hany ▸ hwords "any" (by simp)
  split at h
  case isTrue hascii => exact hascii ▸ hwords "ascii" (by simp)
  split at h
  case isTrue hassigned => exact hassigned ▸ hwords "assigned" (by simp)
  split at h
  case h_1 g hgroup =>
    exact plain_of_isNamed (plainNames_categoryGroups g (List.mem_of_find?_eq_some hgroup))
      (List.find?_some (p := fun g : List String × List String => isNamed g.1 name) hgroup)
  case h_2 => exact plain_of_findNamed plainNames_generalCategories h

theorem plain_of_script? (h : script? name = some ts) : Plain name :=
  plain_of_findNamed plainNames_scripts h

theorem plain_of_scriptExtension? (h : scriptExtension? name = some ts) : Plain name := by
  rcases orElse_eq_some.mp h with h | ⟨_, h⟩
  · exact plain_of_findNamed plainNames_scriptExtensions h
  · exact plain_of_script? h

theorem plain_of_age? (h : age? name = some ts) : Plain name := by
  rcases Option.map_eq_some_iff.mp h with ⟨i, hfind, _⟩
  rcases List.findIdx?_eq_some_iff_getElem.mp hfind with ⟨hlt, hnamed, _⟩
  exact plain_of_isNamed (plainNames_ages _ (List.getElem_mem hlt)) hnamed

/-- What is looked up without blanks is plain only if it is plain with them. -/
theorem plain_of_looseName (h : Plain (looseName name)) : Plain name := by
  intro c hmem
  by_contra hc
  exact hc (h c (mem_looseName hc hmem))

theorem plain_of_property? (h : property? name = some ts) : Plain name := by
  refine plain_of_looseName ?_
  rcases orElse_eq_some.mp h with h | ⟨_, h⟩
  · exact plain_of_findNamed plainNames_binaryProperties h
  · rcases orElse_eq_some.mp h with h | ⟨_, h⟩
    · exact plain_of_category? h
    · exact plain_of_script? h

theorem plain_of_break? {breaks : List NamedRanges}
    (hbreaks : breaks ⊆ graphemeBreaks ++ wordBreaks ++ sentenceBreaks)
    (h : findNamed breaks name = some ts) : Plain name :=
  plain_of_findNamed (fun e he => plainNames_breaks e (hbreaks he)) h

/-- A property and its value are found by plain names. -/
theorem plain_of_propertyValue? (h : propertyValue? name value = some ts) :
    Plain name ∧ Plain value := by
  have hboth {names : List String} (hn : isNamed names (looseName name) = true)
      (hnames : PlainNames names) (hvalue : Plain (looseName value)) : Plain name ∧ Plain value :=
    ⟨plain_of_looseName (plain_of_isNamed hnames hn), plain_of_looseName hvalue⟩
  unfold propertyValue? at h
  dsimp only at h
  split at h
  case isTrue hn => exact hboth hn (by decide +kernel) (plain_of_category? h)
  split at h
  case isTrue hn => exact hboth hn (by decide +kernel) (plain_of_script? h)
  split at h
  case isTrue hn => exact hboth hn (by decide +kernel) (plain_of_scriptExtension? h)
  split at h
  case isTrue hn => exact hboth hn (by decide +kernel) (plain_of_age? h)
  split at h
  case isTrue hn => exact hboth hn (by decide +kernel) (plain_of_break? (by simp) h)
  split at h
  case isTrue hn => exact hboth hn (by decide +kernel) (plain_of_break? (by simp) h)
  split at h
  case isTrue hn => exact hboth hn (by decide +kernel) (plain_of_break? (by simp) h)
  case isFalse => cases h

end Unicode

/-! ## Names and values -/

namespace RegexReader

variable {name p v : Text} {ts : List Unicode.RangeTable}

theorem append_of_splitAtUnequal (h : splitAtUnequal name = some (p, v)) :
    name = p ++ '!' :: '=' :: v := by
  fun_induction splitAtUnequal name generalizing p with
  | case1 => cases h
  | case2 t =>
      cases h
      rfl
  | case3 c t hne ih =>
      rcases Option.map_eq_some_iff.mp h with ⟨⟨a, b⟩, hrest, heq⟩
      cases heq
      rw [ih hrest, List.cons_append]

/-- Both sides of a sign are plain, and so is the whole if the sign is. -/
theorem plain_of_sides (h : Unicode.propertyValue? p v = some ts) {sign : Text}
    (hsign : Plain sign) : Plain (p ++ sign ++ v) := by
  rcases Unicode.plain_of_propertyValue? h with ⟨hp, hv⟩
  exact (hp.append hsign).append hv

/-- What stands between the braces of a property is plain. -/
theorem plain_of_propertyTables? (h : propertyTables? name = some ts) :
    Plain name := by
  unfold propertyTables? at h
  split at h
  case h_1 p v hsplit =>
    have hplain : Plain (p ++ ['!', '='] ++ v) := plain_of_sides h (by decide)
    simpa [append_of_splitAtUnequal hsplit] using hplain
  split at h
  case h_1 p v hsplit =>
    have hplain : Plain (p ++ [':'] ++ v) := plain_of_sides h (by decide)
    simpa [Text.append_of_splitOnce hsplit] using hplain
  split at h
  case h_1 p v hsplit =>
    have hplain : Plain (p ++ ['='] ++ v) := plain_of_sides h (by decide)
    simpa [Text.append_of_splitOnce hsplit] using hplain
  case h_2 => exact Unicode.plain_of_property? h

end RegexReader
end PathTemplate
