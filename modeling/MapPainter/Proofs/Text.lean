import MapPainter.Text.Blank
import MapPainter.Settings
import Mathlib.Data.List.Forall2
import Mathlib.Data.List.TakeWhile

/-!
# Words

What a word is up to the case of its ASCII letters, what is left of it without the blanks at its
ends, and where a text is cut, each said without running a function on the text.
-/

namespace MapPainter.Text

/-! ## Words up to case -/

/-- `small` is the small letter of `capital`, an ASCII letter. -/
def SmallOf (small capital : Char) : Prop :=
  'A' ≤ capital ∧ capital ≤ 'Z' ∧ small.toNat = capital.toNat + 32

/-- Two characters that are equal up to ASCII case. -/
def SameLetter (c d : Char) : Prop := c = d ∨ SmallOf c d ∨ SmallOf d c

/-- Two words that are equal up to ASCII case. -/
def SameWord (v w : List Char) : Prop := List.Forall₂ SameLetter v w

instance (small capital : Char) : Decidable (SmallOf small capital) :=
  inferInstanceAs (Decidable (_ ∧ _ ∧ _))

instance : DecidableRel SameLetter := fun c d =>
  inferInstanceAs (Decidable (c = d ∨ SmallOf c d ∨ SmallOf d c))

instance (v w : List Char) : Decidable (SameWord v w) :=
  inferInstanceAs (Decidable (List.Forall₂ SameLetter v w))

theorem isCapital_iff {c : Char} : 'A' ≤ c ∧ c ≤ 'Z' ↔ 65 ≤ c.toNat ∧ c.toNat ≤ 90 :=
  Iff.rfl

theorem toNat_toLower (c : Char) :
    c.toLower.toNat = if 65 ≤ c.toNat ∧ c.toNat ≤ 90 then c.toNat + 32 else c.toNat := by
  by_cases h : 65 ≤ c.toNat ∧ c.toNat ≤ 90
  · have hlower : c.toLower = ⟨c.val + 32, _⟩ := dif_pos h
    rw [hlower, if_pos h]
    change (c.val + 32).toNat = c.val.toNat + 32
    have hval : c.val.toNat ≤ 90 := h.2
    rw [UInt32.toNat_add, Nat.mod_eq_of_lt]
    · rfl
    · have : (32 : UInt32).toNat = 32 := rfl
      omega
  · have hlower : c.toLower = c := dif_neg h
    rw [hlower, if_neg h]

theorem toLower_eq_toLower_iff {c d : Char} : c.toLower = d.toLower ↔ SameLetter c d := by
  rw [← Char.toNat_inj, toNat_toLower, toNat_toLower, SameLetter, SmallOf, SmallOf,
    ← and_assoc, ← and_assoc, isCapital_iff, isCapital_iff, ← Char.toNat_inj]
  split_ifs <;> omega

theorem toLower_eq_iff {v w : String} : v.toLower = w.toLower ↔ SameWord v.toList w.toList := by
  have htoList (u : String) : u.toLower.toList = u.toList.map Char.toLower := String.toList_map
  rw [← String.toList_inj, htoList, htoList, ← List.forall₂_eq_eq_eq, List.forall₂_map_left_iff,
    List.forall₂_map_right_iff]
  simp only [toLower_eq_toLower_iff, SameWord]

/-! ## Stripped words -/

/-- `core` is `word` without the blanks at its ends. -/
structure Stripped (word core : List Char) : Prop where
  split : ∃ front back, word = front ++ core ++ back ∧
    (∀ c ∈ front, isBlank c = true) ∧ ∀ c ∈ back, isBlank c = true
  head : ∀ c ∈ core.head?, isBlank c = false
  last : ∀ c ∈ core.getLast?, isBlank c = false

theorem dropWhile_eq_iff {p : Char → Bool} {cs core : List Char} :
    cs.dropWhile p = core ↔
      (∃ front, cs = front ++ core ∧ ∀ c ∈ front, p c = true) ∧ ∀ c ∈ core.head?, p c = false := by
  constructor
  · rintro rfl
    refine ⟨⟨cs.takeWhile p, List.takeWhile_append_dropWhile.symm, fun c => ?_⟩, fun c hc => ?_⟩
    · exact List.mem_takeWhile_imp
    · obtain ⟨rest, hrest⟩ := List.head?_eq_some_iff.mp hc
      have hhead := List.head_dropWhile_not p (l := cs) (by simp [hrest])
      simpa [hrest] using hhead
  · rintro ⟨⟨front, rfl, hfront⟩, hhead⟩
    rw [List.dropWhile_append_of_pos hfront]
    cases core with
    | nil => rfl
    | cons c core =>
      have hc : p c = false := hhead c rfl
      simp [hc]

theorem trim_eq_iff {word core : List Char} : trim word = core ↔ Stripped word core := by
  rw [trim, List.reverse_eq_iff, dropWhile_eq_iff, List.head?_reverse]
  constructor
  · rintro ⟨⟨back, hmiddle, hback⟩, hlast⟩
    rw [List.reverse_eq_iff, List.reverse_append, List.reverse_reverse, dropWhile_eq_iff]
      at hmiddle
    obtain ⟨⟨front, hfront⟩, hhead⟩ := hmiddle
    refine ⟨⟨front, back.reverse, by simpa using hfront.1, hfront.2, by simpa using hback⟩,
      fun c hc => hhead c ?_, hlast⟩
    obtain ⟨rest, rfl⟩ := List.head?_eq_some_iff.mp hc
    rfl
  · rintro ⟨⟨front, back, rfl, hfront, hback⟩, hhead, hlast⟩
    refine ⟨?_, hlast⟩
    rw [List.append_assoc, List.dropWhile_append_of_pos hfront]
    cases core with
    | nil => exact ⟨[], by simpa [List.dropWhile_eq_nil_iff] using hback, by simp⟩
    | cons c core =>
      have hc : isBlank c = false := hhead c rfl
      exact ⟨back.reverse, by simp [hc], by simpa using hback⟩

/-! ## Cuts -/

theorem cut?_eq_some_iff {mark : Char} {cs before after : List Char} :
    cut? mark cs = some (before, after) ↔ cs = before ++ mark :: after ∧ mark ∉ before := by
  induction cs generalizing before with
  | nil => simp [cut?]
  | cons c cs ih =>
    rw [cut?]
    split
    · rename_i hc
      cases before <;> simp_all [eq_comm]
    · rename_i hc
      cases before with
      | nil => simp [hc]
      | cons d before =>
        rw [Option.map_eq_some_iff]
        constructor
        · rintro ⟨⟨_, _⟩, hcut, heq⟩
          cases heq
          obtain ⟨rfl, hmem⟩ := ih.mp hcut
          exact ⟨rfl, List.not_mem_cons_of_ne_of_not_mem (Ne.symm hc) hmem⟩
        · rintro ⟨heq, hmem⟩
          obtain ⟨rfl, rfl⟩ := List.cons.inj heq
          exact ⟨(before, after), ih.mpr ⟨rfl, List.not_mem_of_not_mem_cons hmem⟩, rfl⟩

theorem cut?_eq_none_iff {mark : Char} {cs : List Char} : cut? mark cs = none ↔ mark ∉ cs := by
  induction cs with
  | nil => simp [cut?]
  | cons c cs ih =>
    rw [cut?]
    split
    · rename_i hc
      simp [hc]
    · rename_i hc
      rw [Option.map_eq_none_iff, ih, List.mem_cons, not_or]
      exact ⟨fun h => ⟨Ne.symm hc, h⟩, And.right⟩

end MapPainter.Text
