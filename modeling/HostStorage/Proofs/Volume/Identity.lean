import HostStorage.Proofs.Text.Lowercase
import HostStorage.Proofs.Text.Pieces
import HostStorage.Volume.Wwn

/-!
# What an identifier tells of a volume

An identifier is compared with two runs of digits of a name and with the maker's code in it, so it
identifies a name exactly if these digits stand somewhere in it in the maker's layout
(`identifies_iff_exists`). The digits outside them are not looked at, and PowerStore's runs may
stand anywhere: an identifier determines a name up to the digits left out, for one layout at a
time, and no further (`shared_identifiers`).
-/
namespace HostStorage.Wwn

variable {identifier name a b : List Char} {start stop : Nat}

/-! ## Runs of digits -/

theorem length_slice (start stop : Nat) (cs : List Char) :
    (slice start stop cs).length = min (stop - start) (cs.length - start) := by
  simp [slice]

/-- A name of 32 digits has all digits of a run within them. -/
theorem length_slice_of_long (long : name.length = 32) (start stop : Nat) (inside : stop ≤ 32) :
    (slice start stop name).length = stop - start := by
  rw [length_slice, long]
  omega

/-- Runs are equal if their digits are. -/
theorem slice_eq_slice_iff :
    slice start stop a = slice start stop b ↔ ∀ i, start ≤ i → i < stop → a[i]? = b[i]? := by
  constructor
  · intro same i low high
    have here := congrArg (·[i - start]?) same
    simpa [slice, List.getElem?_take, show i - start < stop - start by omega,
      show start + (i - start) = i by omega] using here
  · intro same
    apply List.ext_getElem?
    intro i
    simp only [slice, List.getElem?_take, List.getElem?_drop]
    split
    next inside => exact same (start + i) (by omega) (by omega)
    next => rfl

/-- A text occurs in another as one of its runs. -/
theorem infix_iff_exists_slice {piece cs : List Char} :
    piece <:+: cs ↔ ∃ place, slice place (place + piece.length) cs = piece := by
  constructor
  · rintro ⟨before, after, rfl⟩
    exact ⟨before.length, by simp [slice]⟩
  · rintro ⟨place, here⟩
    rw [← here]
    exact (List.take_prefix _ _).isInfix.trans (List.drop_suffix _ _).isInfix

/-- Two texts start a third as its first two runs. -/
theorem append_prefix_iff_slice {first second cs : List Char} :
    first ++ second <+: cs ↔
      slice 0 first.length cs = first ∧
      slice first.length (first.length + second.length) cs = second := by
  constructor
  · rintro ⟨rest, rfl⟩
    simp [slice]
  · rintro ⟨atFirst, atSecond⟩
    refine ⟨cs.drop (first.length + second.length), ?_⟩
    rw [slice, List.drop_zero, Nat.sub_zero] at atFirst
    rw [slice, Nat.add_sub_cancel_left] at atSecond
    calc first ++ second ++ cs.drop (first.length + second.length)
        = cs.take (first.length + second.length) ++ cs.drop (first.length + second.length) := by
          rw [List.take_add, atFirst, atSecond]
      _ = cs := List.take_append_drop _ cs

/-! ## Layouts -/

/-- The maker's code, digits 1 to 6 of a name. -/
def Maker.code : Maker → List Char
  | .powerStore => ['8', 'c', 'c', 'f', '0', '9']
  | .powerMax => ['0', '0', '0', '0', '9', '7']

theorem maker?_eq_some_iff (name : List Char) (m : Maker) :
    maker? name = some m ↔ slice 1 7 name = m.code := by
  unfold maker?
  split
  next powerStore => cases m <;> simp [powerStore, Maker.code]
  next notStore =>
    split
    next powerMax => cases m <;> simp [powerMax, Maker.code]
    next notMax => cases m <;> simp [notStore, notMax, Maker.code]

/-- The digits `start` to `stop` of a name, the latter excluded, in an identifier from `place`. -/
structure Part where
  start : Nat
  stop : Nat
  place : Nat
  deriving DecidableEq, Repr

def Part.Found (part : Part) (identifier name : List Char) : Prop :=
  slice part.place (part.place + (part.stop - part.start)) identifier =
    slice part.start part.stop name

instance (part : Part) (identifier name : List Char) : Decidable (part.Found identifier name) :=
  inferInstanceAs (Decidable (_ = _))

/-- Where an identifier has the digits of a name; PowerStore's two runs have no fixed places. -/
inductive Layout where
  | powerStore (body tail : Nat)
  | powerMax
  deriving DecidableEq, Repr

namespace Layout

def maker : Layout → Maker
  | powerStore _ _ => .powerStore
  | powerMax => .powerMax

def parts : Layout → List Part
  | powerStore body tail => [⟨10, 26, body⟩, ⟨26, 32, tail⟩]
  | powerMax => [⟨16, 32, 0⟩, ⟨1, 7, 16⟩]

structure Found (layout : Layout) (identifier name : List Char) : Prop where
  code : slice 1 7 name = layout.maker.code
  parts : ∀ part ∈ layout.parts, part.Found identifier name

instance (layout : Layout) (identifier name : List Char) :
    Decidable (layout.Found identifier name) :=
  decidable_of_iff (slice 1 7 name = layout.maker.code ∧
      ∀ part ∈ layout.parts, part.Found identifier name)
    ⟨fun ⟨code, parts⟩ => ⟨code, parts⟩, fun ⟨code, parts⟩ => ⟨code, parts⟩⟩

theorem parts_powerStore_iff (body tail : Nat) :
    (∀ part ∈ (powerStore body tail).parts, part.Found identifier name) ↔
      slice body (body + 16) identifier = slice 10 26 name ∧
      slice tail (tail + 6) identifier = slice 26 32 name := by
  rw [parts, List.forall_mem_cons, List.forall_mem_singleton]
  rfl

theorem parts_powerMax_iff :
    (∀ part ∈ powerMax.parts, part.Found identifier name) ↔
      slice 0 16 identifier = slice 16 32 name ∧ slice 16 22 identifier = slice 1 7 name := by
  rw [parts, List.forall_mem_cons, List.forall_mem_singleton]
  rfl

/-- The digits of a name that a maker's layout leaves out. -/
def freeDigits : Maker → List Nat
  | .powerStore => [0, 7, 8, 9]
  | .powerMax => [0, 7, 8, 9, 10, 11, 12, 13, 14, 15]

/-- The digit stands in the maker's code or in a part. -/
def Compares (layout : Layout) (i : Nat) : Prop :=
  (1 ≤ i ∧ i < 7) ∨ ∃ part ∈ layout.parts, part.start ≤ i ∧ i < part.stop

theorem compares_iff (layout : Layout) (i : Nat) :
    layout.Compares i ↔ i < 32 ∧ i ∉ freeDigits layout.maker := by
  cases layout <;> simp [Compares, freeDigits, maker, parts] <;> omega

/-- Where one name is found, another one is if it has the same digits there. -/
theorem Found.found_iff {layout : Layout} (found : layout.Found identifier a) :
    layout.Found identifier b ↔ ∀ i, layout.Compares i → a[i]? = b[i]? := by
  constructor
  · rintro other i (⟨low, high⟩ | ⟨part, listed, low, high⟩)
    · exact slice_eq_slice_iff.1 (found.code.trans other.code.symm) i low high
    · have same : slice part.start part.stop a = slice part.start part.stop b :=
        (found.parts part listed).symm.trans (other.parts part listed)
      exact slice_eq_slice_iff.1 same i low high
  · intro same
    constructor
    · rw [← found.code]
      exact slice_eq_slice_iff.2 fun i low high => (same i (Or.inl ⟨low, high⟩)).symm
    · intro part listed
      exact (found.parts part listed).trans <| slice_eq_slice_iff.2 fun i low high =>
        same i (Or.inr ⟨part, listed, low, high⟩)

end Layout

/-- The maker's order is kept if some layout of the maker's is found. -/
theorem fits_iff (m : Maker) (long : name.length = 32) :
    fits m identifier name = true ↔
      ∃ layout : Layout, layout.maker = m ∧ ∀ part ∈ layout.parts, part.Found identifier name := by
  -- a name has all digits of its runs, so each is found only where the identifier has as many
  have run := length_slice_of_long long
  cases m with
  | powerStore =>
    rw [fits, Bool.and_eq_true, Text.occursIn_iff, Text.occursIn_iff, infix_iff_exists_slice,
      infix_iff_exists_slice, run 10 26 (by decide), run 26 32 (by decide)]
    constructor
    · rintro ⟨⟨body, atBody⟩, tail, atTail⟩
      exact ⟨.powerStore body tail, rfl, (Layout.parts_powerStore_iff body tail).2 ⟨atBody, atTail⟩⟩
    · rintro ⟨layout, maker, found⟩
      cases layout with
      | powerStore body tail =>
        obtain ⟨atBody, atTail⟩ := (Layout.parts_powerStore_iff body tail).1 found
        exact ⟨⟨body, atBody⟩, tail, atTail⟩
      | powerMax => cases maker
  | powerMax =>
    rw [fits, List.isPrefixOf_iff_prefix, append_prefix_iff_slice, run 16 32 (by decide),
      run 1 7 (by decide)]
    constructor
    · rintro ⟨atStart, atCode⟩
      exact ⟨.powerMax, rfl, Layout.parts_powerMax_iff.2 ⟨atStart, atCode⟩⟩
    · rintro ⟨layout, maker, found⟩
      cases layout with
      | powerStore body tail => cases maker
      | powerMax => exact Layout.parts_powerMax_iff.1 found

/-! ## Written names and identifiers -/

def nameMark : List Char := ['n', 'a', 'a', '.']

def identifierMark : List Char := ['e', 'u', 'i', '.']

def hexDigits : List Char :=
  ['0', '1', '2', '3', '4', '5', '6', '7', '8', '9', 'a', 'b', 'c', 'd', 'e', 'f']

/-- A text that has 32 hexadecimal digits, `digits` in small letters, with or without a mark. -/
structure Writes (mark digits : List Char) (s : String) : Prop where
  length : digits.length = 32
  hex : ∀ c ∈ digits, c ∈ hexDigits
  small : s.toList.map Char.toLower = digits ∨ s.toList.map Char.toLower = mark ++ digits

instance (mark digits : List Char) (s : String) : Decidable (Writes mark digits s) :=
  decidable_of_iff (digits.length = 32 ∧ digits.all (hexDigits.contains ·) = true ∧
      (s.toList.map Char.toLower = digits ∨ s.toList.map Char.toLower = mark ++ digits))
    ⟨fun ⟨length, hex, small⟩ => ⟨length, by simpa using hex, small⟩,
      fun ⟨length, hex, small⟩ => ⟨length, by simpa using hex, small⟩⟩

/-- A character of a mark or a digit. -/
def IsLegible (c : Char) : Prop := c.toNat < 0x80 ∧ Text.isBlank c = false

instance : DecidablePred IsLegible :=
  fun c => inferInstanceAs (Decidable (c.toNat < 0x80 ∧ Text.isBlank c = false))

variable {mark digits : List Char} {s : String}

theorem isLegible_of_mem {cs : List Char} (legible : cs.all (IsLegible ·) = true) {c : Char}
    (listed : c ∈ cs) : IsLegible c :=
  of_decide_eq_true (List.all_eq_true.1 legible c listed)

theorem plain_of_mem_nameMark {c : Char} (listed : c ∈ nameMark) : c.toNat < 0x80 :=
  (isLegible_of_mem (by decide) listed).1

theorem isLegible_of_mem_hexDigits {c : Char} (listed : c ∈ hexDigits) : IsLegible c :=
  isLegible_of_mem (by decide) listed

theorem Writes.isLegible (written : Writes mark digits s)
    (markLegible : mark.all (IsLegible ·) = true) : ∀ c ∈ s.toList, IsLegible c := by
  intro c listed
  have small : c.toLower ∈ s.toList.map Char.toLower := List.mem_map_of_mem listed
  have legible : IsLegible c.toLower := by
    rcases written.small with bare | marked
    · rw [bare] at small
      exact isLegible_of_mem_hexDigits (written.hex _ small)
    · rw [marked] at small
      rcases List.mem_append.1 small with inMark | inDigits
      · exact isLegible_of_mem markLegible inMark
      · exact isLegible_of_mem_hexDigits (written.hex _ inDigits)
  have plain := Text.plain_of_toLower legible.1
  exact ⟨plain, (Text.isBlank_toLower plain).symm.trans legible.2⟩

/-- A mark is told from digits by its full stop. -/
theorem Writes.withoutStart (written : Writes mark digits s)
    (markLegible : mark.all (IsLegible ·) = true) (dot : '.' ∈ mark) :
    Text.withoutStart mark (Text.lowercase s.toList) = digits := by
  rw [Text.lowercase_eq_map fun c listed => (written.isLegible markLegible c listed).1]
  rcases written.small with bare | marked
  · rw [bare]
    exact Text.withoutStart_of_notMem dot fun listed => absurd (written.hex _ listed) (by decide)
  · rw [marked, Text.withoutStart_append]

theorem Writes.nameDigits (written : Writes nameMark digits s) : nameDigits s = digits :=
  written.withoutStart (by decide) (by decide)

theorem Writes.identifierDigits (written : Writes identifierMark digits s) :
    identifierDigits s = digits := by
  have legible := written.isLegible (by decide)
  rw [Wwn.identifierDigits, Text.trim_of_forall_not fun c listed => (legible c listed).2]
  exact written.withoutStart (by decide) (by decide)

/-- An identifier identifies a name if it has the digits of the name in some layout. -/
theorem identifies_iff_exists {nguid wwn : String}
    (ofIdentifier : Writes identifierMark identifier nguid) (ofName : Writes nameMark name wwn) :
    identifies nguid wwn = true ↔ ∃ layout : Layout, layout.Found identifier name := by
  have plain : (name.any fun c => 0x80 ≤ c.toNat) = false := by
    simpa using fun c listed => (isLegible_of_mem_hexDigits (ofName.hex c listed)).1
  have answer : identifies nguid wwn = (maker? name).elim false (fits · identifier name) := by
    rw [identifies, ofName.nameDigits, ofIdentifier.identifierDigits]
    simp only [ofName.length, plain]
    cases maker? name <;> rfl
  rw [answer]
  constructor
  · intro matched
    cases told : maker? name with
    | none => simp [told] at matched
    | some m =>
      rw [told] at matched
      obtain ⟨layout, rfl, found⟩ := (fits_iff m ofName.length).1 matched
      exact ⟨layout, (maker?_eq_some_iff name layout.maker).1 told, found⟩
  · rintro ⟨layout, found⟩
    rw [(maker?_eq_some_iff name layout.maker).2 found.code]
    exact (fits_iff layout.maker ofName.length).2 ⟨layout, rfl, found.parts⟩

/-- An identifier determines a name up to the digits that the maker's layout leaves out, for one
layout at a time. -/
theorem identifies_up_to_free_digits {nguid first second : String}
    (ofIdentifier : Writes identifierMark identifier nguid) (ofFirst : Writes nameMark a first)
    (ofSecond : Writes nameMark b second) :
    (identifies nguid first = true ↔ ∃ layout : Layout, layout.Found identifier a) ∧
    (identifies nguid second = true ↔ ∃ layout : Layout, layout.Found identifier b) ∧
    ∀ layout : Layout, layout.Found identifier a →
      (layout.Found identifier b ↔
        ∀ i < 32, i ∉ Layout.freeDigits layout.maker → a[i]? = b[i]?) := by
  refine ⟨identifies_iff_exists ofIdentifier ofFirst, identifies_iff_exists ofIdentifier ofSecond,
    fun layout found => ?_⟩
  rw [found.found_iff]
  simp only [Layout.compares_iff, and_imp]

/-- Names of PowerMax that differ in the number of the array have one identifier. -/
theorem same_but_for_array_number :
    let identifier := "12635330303134340000976000012000".toList
    let a := "60000970000120001263533030313434".toList
    let b := "60000970000130001263533030313434".toList
    Writes identifierMark identifier "EUI.12635330303134340000976000012000" ∧
    Writes nameMark a "naa.60000970000120001263533030313434" ∧
    Writes nameMark b "60000970000130001263533030313434" ∧
    Layout.powerMax.Found identifier a ∧ Layout.powerMax.Found identifier b ∧
    identifies "EUI.12635330303134340000976000012000"
      "60000970000130001263533030313434" = true := by
  intro identifier a b
  have ofIdentifier : Writes identifierMark identifier "EUI.12635330303134340000976000012000" := by
    decide
  have ofFirst : Writes nameMark a "naa.60000970000120001263533030313434" := by decide
  have ofSecond : Writes nameMark b "60000970000130001263533030313434" := by decide
  have found : Layout.powerMax.Found identifier a := by decide
  obtain ⟨-, identified, same⟩ := identifies_up_to_free_digits ofIdentifier ofFirst ofSecond
  have other : Layout.powerMax.Found identifier b := (same _ found).2 (by decide)
  exact ⟨ofIdentifier, ofFirst, ofSecond, found, other, identified.2 ⟨_, other⟩⟩

/-- The identifier is taken for that of both names, and these are names of different volumes. -/
def Shared (nguid first second : String) : Prop :=
  (Writes identifierMark nguid.toList nguid ∧ Writes nameMark first.toList first ∧
    Writes nameMark second.toList second) ∧
  (identifies nguid first = true ∧ identifies nguid second = true) ∧
  nameDigits first ≠ nameDigits second

instance (nguid first second : String) : Decidable (Shared nguid first second) :=
  inferInstanceAs (Decidable (_ ∧ _ ∧ _))

/-- An identifier of several volumes: names of PowerMax that differ in digits left out, names of
PowerStore found at different places, and names of the two makers. -/
theorem shared_identifiers :
    Shared "12635330303134340000976000012000"
      "60000970000120001263533030313434" "60000970000130001263533030313434" ∧
    Shared "1111a2222b3d44448ccf096800a1b23c"
      "68ccf098001111a2222b3d4444a1b23c" "68ccf09800111a2222b3d44448a1b23c" ∧
    Shared "12635330303134340000976000012000"
      "60000970000120001263533030313434" "68ccf098001263533030313434126353" := by
  decide +kernel

end HostStorage.Wwn
