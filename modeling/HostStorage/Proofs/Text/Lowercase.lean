import HostStorage.Text.Blank
import HostStorage.Text.Lowercase
import Mathlib.Data.List.Forall2

/-!
# Lower case of plain letters

Below the code point `80` the full lower-case mapping is the one that moves `A` to `Z` and nothing
else (`lowercase_eq_map`), and a letter is as blank as its small form. Only the Kelvin sign comes
down to a plain letter from above: a text whose lower case is plain has as many characters, each of
which is plain or that sign (`isSmallForm_lowercase`).
-/
namespace HostStorage.Text

/-- A statement about the characters below the code point `80` is a finite one. -/
theorem forall_plain {p : Char → Prop} (each : ∀ n < 0x80, p (Char.ofNat n)) {c : Char}
    (plain : c.toNat < 0x80) : p c := by
  have here := each c.toNat plain
  rwa [Char.ofNat_toNat] at here

theorem lowerChar_eq_toLower {c : Char} (plain : c.toNat < 0x80) : lowerChar c = [c.toLower] :=
  forall_plain (p := fun c => lowerChar c = [c.toLower]) (by decide) plain

theorem isBlank_toLower {c : Char} (plain : c.toNat < 0x80) : isBlank c.toLower = isBlank c :=
  forall_plain (p := fun c => isBlank c.toLower = isBlank c) (by decide) plain

/-- A character with a plain small form is plain. -/
theorem plain_of_toLower {c : Char} (plain : c.toLower.toNat < 0x80) : c.toNat < 0x80 := by
  by_cases capital : c.val ≥ 'A'.val ∧ c.val ≤ 'Z'.val
  · have bound : c.toNat ≤ 'Z'.toNat := UInt32.le_iff_toNat_le.1 capital.2
    exact Nat.lt_of_le_of_lt bound (by decide)
  · have same : c.toLower = c := dif_neg capital
    rwa [same] at plain

/-- Plain letters come down one by one, and what follows them comes down behind them. -/
theorem lowerAfter_append {start : List Char} (plain : ∀ c ∈ start, c.toNat < 0x80)
    (before cs : List Char) :
    lowerAfter before (start ++ cs) =
      start.map Char.toLower ++ lowerAfter (start.reverse ++ before) cs := by
  induction start generalizing before with
  | nil => rfl
  | cons c r ih =>
    have here := plain c List.mem_cons_self
    have notSigma : c ≠ capitalSigma := by
      rintro rfl
      exact absurd here (by decide)
    rw [List.cons_append, lowerAfter, if_neg notSigma, lowerChar_eq_toLower here,
      ih (fun d listed => plain d (List.mem_cons_of_mem c listed)), List.reverse_cons,
      List.append_assoc]
    rfl

/-- The lower case of plain letters. -/
theorem lowercase_eq_map {cs : List Char} (plain : ∀ c ∈ cs, c.toNat < 0x80) :
    lowercase cs = cs.map Char.toLower := by
  have run := lowerAfter_append plain [] []
  rwa [List.append_nil, lowerAfter, List.append_nil] at run

/-- A character that is neither cased nor ignored hides what stands before it. -/
theorem meetsCased_append {c : Char} (seen : caseIgnorableRanges.holds c = false)
    (uncased : casedRanges.holds c = false) (before more : List Char) :
    meetsCased (before ++ c :: more) = meetsCased before := by
  unfold meetsCased
  rw [List.dropWhile_append]
  cases before.dropWhile caseIgnorableRanges.holds with
  | nil =>
    rw [List.isEmpty_nil, if_pos rfl, List.dropWhile_cons_of_neg (by simp [seen])]
    exact uncased
  | cons d r => rfl

theorem lowerAfter_hidden {c : Char} (seen : caseIgnorableRanges.holds c = false)
    (uncased : casedRanges.holds c = false) (before more cs : List Char) :
    lowerAfter (before ++ c :: more) cs = lowerAfter before cs := by
  induction cs generalizing before with
  | nil => rfl
  | cons d r ih =>
    have tail := ih (d :: before)
    rw [List.cons_append] at tail
    rw [lowerAfter, lowerAfter, meetsCased_append seen uncased, tail]

/-- Texts whose letters are the same, case aside. -/
def SameLetters (a b : String) : Prop := lowercased a = lowercased b

instance (a b : String) : Decidable (SameLetters a b) :=
  inferInstanceAs (Decidable (lowercased a = lowercased b))

theorem SameLetters.lowercase_eq {a b : String} (same : SameLetters a b) :
    lowercase a.toList = lowercase b.toList :=
  String.ofList_inj.1 same

/-! ## Texts with a plain lower case -/

/-- No run of capitals but that of the Kelvin sign leads from above the code point `80` to below,
and none leads to code points that are no characters. -/
theorem capitalRuns_bounds : ∀ r ∈ capitalRuns, r.2.1 < 0x80 ∨ r = (0x212a, 0x212a, 1, -8383) ∨
    0x80 ≤ (r.1 : Int) + r.2.2.2 ∧ (r.2.1 + r.2.2.2 < 0xd800 ∨
      0xdfff < (r.1 : Int) + r.2.2.2 ∧ r.2.1 + r.2.2.2 < 0x110000) := by
  decide +kernel

theorem smallCode_cases {n : Nat} (character : n.isValidChar) (notPlain : 0x80 ≤ n) :
    smallCode n = 'k'.toNat ∨ 0x80 ≤ smallCode n ∧ (smallCode n).isValidChar := by
  unfold smallCode
  split
  next r found =>
    have inside := List.find?_some found
    simp only [Bool.and_eq_true, decide_eq_true_eq] at inside
    rcases capitalRuns_bounds r (List.mem_of_find?_eq_some found) with below | rfl | ⟨low, high⟩
    · omega
    · left
      dsimp only at inside
      have here : n = 0x212a := by omega
      rw [here]
      rfl
    · right
      rw [Nat.isValidChar]
      omega
  next => exact Or.inr ⟨notPlain, character⟩

/-- What a character becomes in lower case if that is plain: its small form, or `k`. -/
def IsSmallForm (c small : Char) : Prop :=
  small = c.toLower ∨ small = 'k' ∧ 0x80 ≤ c.toNat

theorem isSmallForm_of_lowerChar {c : Char} (plain : ∀ d ∈ lowerChar c, d.toNat < 0x80) :
    ∃ small, lowerChar c = [small] ∧ IsSmallForm c small := by
  by_cases low : c.toNat < 0x80
  · exact ⟨c.toLower, lowerChar_eq_toLower low, Or.inl rfl⟩
  · rw [lowerChar, if_neg low] at plain ⊢
    split at plain
    next => exact absurd (plain (Char.ofNat 0x307) (by simp)) (by decide)
    next notDotted =>
      rw [if_neg notDotted]
      refine ⟨_, rfl, Or.inr ⟨?_, Nat.le_of_not_lt low⟩⟩
      have character : c.toNat.isValidChar := c.valid
      rcases smallCode_cases character (Nat.le_of_not_lt low) with kelvin | ⟨high, valid⟩
      · rw [kelvin]
        rfl
      · have bound : smallCode c.toNat < 0x80 := by
          have here := plain _ List.mem_cons_self
          rwa [Char.ofNat, dif_pos valid] at here
        omega

/-- A text with a plain lower case has the small forms of its characters there, one for one. -/
theorem isSmallForm_lowerAfter {before cs : List Char}
    (plain : ∀ d ∈ lowerAfter before cs, d.toNat < 0x80) :
    List.Forall₂ IsSmallForm cs (lowerAfter before cs) := by
  induction cs generalizing before with
  | nil => exact List.Forall₂.nil
  | cons c r ih =>
    rw [lowerAfter] at plain ⊢
    have tail := ih fun d listed => plain d (List.mem_append_right _ listed)
    by_cases sigma : c = capitalSigma
    · rw [if_pos sigma] at plain
      have here := plain _ (List.mem_append_left _ List.mem_cons_self)
      split at here <;> exact absurd here (by decide)
    · rw [if_neg sigma] at plain ⊢
      obtain ⟨small, lower, form⟩ :=
        isSmallForm_of_lowerChar fun d listed => plain d (List.mem_append_left _ listed)
      rw [lower]
      exact List.Forall₂.cons form tail

theorem isSmallForm_lowercase {cs : List Char} (plain : ∀ d ∈ lowercase cs, d.toNat < 0x80) :
    List.Forall₂ IsSmallForm cs (lowercase cs) :=
  isSmallForm_lowerAfter plain

/-- Plain text without `k` is read from the small forms as from the characters. -/
theorem eq_iff_map_toLower {cs smalls text : List Char}
    (forms : List.Forall₂ IsSmallForm cs smalls) (plain : ∀ c ∈ text, c.toNat < 0x80)
    (noK : 'k' ∉ text) : smalls = text ↔ cs.map Char.toLower = text := by
  induction forms generalizing text with
  | nil => rfl
  | @cons c small cs smalls form _ ih =>
    cases text with
    | nil => simp
    | cons d text =>
      have head : small = d ↔ c.toLower = d := by
        rcases form with rfl | ⟨rfl, notPlain⟩
        · rfl
        · refine iff_of_false ?_ ?_
          · rintro rfl
            exact noK List.mem_cons_self
          · rintro rfl
            have low := plain_of_toLower (plain _ List.mem_cons_self)
            omega
      rw [List.map_cons, List.cons_eq_cons, List.cons_eq_cons, head,
        ih (fun e listed => plain e (List.mem_cons_of_mem d listed))
          (fun listed => noK (List.mem_cons_of_mem d listed))]

end HostStorage.Text
