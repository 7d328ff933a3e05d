import MapPainter.Ron.Layout
import MapPainter.Ron.Record
import Mathlib.Data.List.TakeWhile

/-!
# Values as they are written

Numbers, words and quoted texts are read back as they were written. In a document a comma follows
them, which ends a number or a word; a quoted text ends by itself.
-/

namespace MapPainter.Ron

open Text (Reader isHexDigit digitValue isNamePart)

/-- A character that a value begins with: it is not skipped, begins no comment and closes
nothing. -/
def BeginsValue (c : Char) : Prop := isBlank c = false ∧ c ∉ ['/', ')', ']']

instance (c : Char) : Decidable (BeginsValue c) := inferInstanceAs (Decidable (_ ∧ _))

/-- A reader reads back a written value, where a comma comes next. -/
structure ReadsBack {α : Type} (reader : Reader α) (written : List Char) (a : α) : Prop where
  front : ∃ c cs, written = c :: cs ∧ BeginsValue c
  read : ∀ rest, reader (written ++ ',' :: rest) = some (a, ',' :: rest)

/-- A run of characters ends where one does not belong to it. -/
theorem takeWhile_dropWhile_append {p : Char → Bool} {run : List Char}
    (hrun : ∀ c ∈ run, p c = true) {mark : Char} (hmark : p mark = false) (rest : List Char) :
    (run ++ mark :: rest).takeWhile p = run ∧
      (run ++ mark :: rest).dropWhile p = mark :: rest := by
  rw [List.takeWhile_append_of_pos hrun, List.dropWhile_append_of_pos hrun]
  simp [hmark]

theorem beginsValue_of_isNamePart {c : Char} (h : isNamePart c = true) : BeginsValue c := by
  refine ⟨?_, fun hmark => ?_⟩
  · rw [← Bool.not_eq_true]
    intro hblank
    simp only [isBlank, decide_eq_true_eq, List.mem_cons, List.not_mem_nil, or_false] at hblank
    rcases hblank with rfl | rfl | rfl | rfl | rfl | rfl | rfl | rfl | rfl | rfl | rfl <;>
      exact absurd h (by decide +kernel)
  · simp only [List.mem_cons, List.not_mem_nil, or_false] at hmark
    rcases hmark with rfl | rfl | rfl <;> exact absurd h (by decide)

theorem isNamePart_of_isDigit {c : Char} (h : c.isDigit = true) : isNamePart c = true := by
  have hascii : c.toNat < 128 := by
    simp only [Char.isDigit, Bool.and_eq_true, decide_eq_true_eq] at h
    have hle : c.toNat ≤ 57 := h.2
    omega
  simp [isNamePart, hascii, Char.isAlphanum, h]

/-! ## Words -/

/-- A text that is a name as it stands. -/
def IsName (w : List Char) : Prop :=
  w.head?.any beginsName = true ∧ w.all isNamePart = true

instance (w : List Char) : Decidable (IsName w) := inferInstanceAs (Decidable (_ ∧ _))

theorem IsName.part {w : List Char} (h : IsName w) : ∀ c ∈ w, isNamePart c = true :=
  List.all_eq_true.mp h.2

theorem IsName.front {w : List Char} (h : IsName w) :
    ∃ c cs, w = c :: cs ∧ beginsName c = true := by
  obtain ⟨hhead, -⟩ := h
  cases w with
  | nil => cases hhead
  | cons c cs => exact ⟨c, cs, rfl, by simpa using hhead⟩

/-- What stands behind a name: a colon behind that of a field, a comma behind a word. -/
def EndsName (mark : Char) : Prop := mark = ':' ∨ mark = ','

theorem EndsName.not_isMarkedPart {mark : Char} (h : EndsName mark) :
    isMarkedPart mark = false := by
  rcases h with rfl | rfl <;> decide

theorem EndsName.not_isNamePart {mark : Char} (h : EndsName mark) : isNamePart mark = false := by
  rcases h with rfl | rfl <;> decide

theorem not_beginsLiteral {w : List Char} (hw : ∀ c ∈ w, isNamePart c = true) {mark : Char}
    (hmark : EndsName mark) (rest : List Char) : beginsLiteral (w ++ mark :: rest) = false := by
  -- what a literal has behind its letters, a name has not
  have hfront : ∀ front ∈ literalFronts,
      (front.dropWhile isNamePart).head?.any (fun d => d != ':' && d != ',') = true := by decide
  rw [beginsLiteral, List.any_eq_false]
  intro front hmem hprefix
  obtain ⟨tail, htail⟩ := List.isPrefixOf_iff_prefix.mp hprefix
  have hdrop := (takeWhile_dropWhile_append hw hmark.not_isNamePart rest).2
  have hhead := hfront front hmem
  rw [← htail, List.dropWhile_append] at hdrop
  cases hletters : front.dropWhile isNamePart with
  | nil =>
    rw [hletters] at hhead
    cases hhead
  | cons d ds =>
    rw [hletters] at hhead hdrop
    obtain rfl : d = mark := (List.cons.inj hdrop).1
    rcases hmark with rfl | rfl <;> simp at hhead

theorem name_append {w : List Char} (hw : IsName w) {mark : Char} (hmark : EndsName mark)
    (rest : List Char) : name (w ++ mark :: rest) = some (w, mark :: rest) := by
  obtain ⟨c, cs, rfl, hc⟩ := hw.front
  have hparts := (List.forall_mem_cons.mp hw.part).2
  have hhash : ∀ ds, cs ++ mark :: rest ≠ '#' :: ds := by
    intro ds h
    cases cs with
    | nil =>
      obtain rfl : mark = '#' := (List.cons.inj h).1
      rcases hmark with hmark | hmark <;> exact absurd hmark (by decide)
    | cons d cs =>
      obtain rfl : d = '#' := (List.cons.inj h).1
      exact absurd (hparts '#' List.mem_cons_self) (by decide)
  obtain ⟨hrun, hrest⟩ := takeWhile_dropWhile_append hparts hmark.not_isNamePart rest
  have hliteral := not_beginsLiteral hw.part hmark rest
  rw [List.cons_append] at hliteral
  have hlongest : longestName (c :: (cs ++ mark :: rest)) = some (c :: cs, mark :: rest) := by
    unfold longestName
    rw [hliteral, if_neg Bool.false_ne_true]
    split
    · rename_i h
      exact absurd (List.cons.inj h).2 (hhash _)
    · rename_i h
      obtain ⟨rfl, rfl⟩ := List.cons.inj h
      rw [if_pos hc, hrun, hrest]
    · rename_i h
      cases h
  rw [name, List.cons_append, hlongest]
  simp [hmark.not_isMarkedPart]

theorem readsBack_word {α : Type} {items : List (String × α)} {item : String × α} {w : List Char}
    (hw : IsName w) (hitem : items.find? (fun (word, _) => word.toList == w) = some item) :
    ReadsBack (oneOf items) w item.2 := by
  obtain ⟨c, cs, hcs, -⟩ := hw.front
  refine ⟨⟨c, cs, hcs, beginsValue_of_isNamePart (hw.part c (by simp [hcs]))⟩, fun rest => ?_⟩
  rw [oneOf, name_append hw (Or.inr rfl) rest]
  simp [hitem]

/-! ## Numbers -/

theorem isHexDigit_digitChar {d : Nat} (h : d < 16) : isHexDigit d.digitChar = true := by
  decide +revert

theorem digitValue_digitChar {d : Nat} (h : d < 16) : digitValue d.digitChar = d := by
  decide +revert

theorem digitChar_ne_underscore {d : Nat} (h : d < 16) : d.digitChar ≠ '_' := by
  decide +revert

section Digits

variable {b : Nat} (hb : 1 < b) (hb' : b ≤ 16)

include hb hb'

theorem isHexDigit_of_mem_toDigits {n : Nat} : ∀ c ∈ b.toDigits n, isHexDigit c = true := by
  induction n using Nat.strongRecOn with
  | ind n ih =>
    rw [Nat.toDigits_eq_if hb]
    split
    · rename_i hn
      exact List.forall_mem_singleton.mpr (isHexDigit_digitChar (by omega))
    · rename_i hn
      have hlast : n % b < b := Nat.mod_lt n (by omega)
      refine List.forall_mem_append.mpr ⟨ih (n / b) (Nat.div_lt_self (by omega) hb), ?_⟩
      exact List.forall_mem_singleton.mpr (isHexDigit_digitChar (by omega))

theorem valueFrom_append_digit {high d : Nat} {cs : List Char} {value : Nat}
    (hcs : valueFrom b high cs = some value) (hd : d < b) :
    valueFrom b high (cs ++ [d.digitChar]) = some (b * value + d) := by
  fun_induction valueFrom b high cs with
  | case1 high =>
    obtain rfl := Option.some.inj hcs
    have hne := digitChar_ne_underscore (by omega : d < 16)
    have hvalue := digitValue_digitChar (by omega : d < 16)
    rw [List.nil_append, valueFrom, hvalue, if_pos hd, valueFrom]
    exact hne
  | case2 high rest ih =>
    rw [List.cons_append, valueFrom]
    exact ih hcs
  | case3 high c rest hc hlt ih =>
    rw [List.cons_append, valueFrom, if_pos hlt]
    · exact ih hcs
    · exact hc
  | case4 => cases hcs

theorem valueFrom_toDigits (n : Nat) : valueFrom b 0 (b.toDigits n) = some n := by
  induction n using Nat.strongRecOn with
  | ind n ih =>
    rw [Nat.toDigits_eq_if hb]
    split
    · rename_i hn
      rw [← List.nil_append [n.digitChar], valueFrom_append_digit hb hb' rfl hn]
      simp
    · rename_i hn
      rw [valueFrom_append_digit hb hb' (ih (n / b) (Nat.div_lt_self (by omega) hb))
        (Nat.mod_lt n (by omega)), Nat.div_add_mod]

end Digits

theorem isDigit_of_mem_writeNatural {n : Nat} {c : Char} (h : c ∈ writeNatural n) :
    c.isDigit = true :=
  Nat.isDigit_of_mem_toDigits (by decide) (by decide) h

theorem writeNatural_eq_cons (n : Nat) : ∃ c cs, writeNatural n = c :: cs ∧ c.isDigit = true := by
  obtain ⟨c, cs, hcs⟩ := List.exists_cons_of_ne_nil (Nat.toDigits_ne_nil (b := 10) (n := n))
  have hmem : c ∈ writeNatural n := by
    rw [writeNatural, hcs]
    exact List.mem_cons_self
  exact ⟨c, cs, hcs, isDigit_of_mem_writeNatural hmem⟩

theorem digits_writeNatural (n : Nat) (rest : List Char) :
    digits 10 (writeNatural n ++ ',' :: rest) = some (n, ',' :: rest) := by
  have hdigits : ∀ c ∈ writeNatural n, isDigitChar c = true := by
    intro c hc
    have hhex : isHexDigit c = true := isHexDigit_of_mem_toDigits (by decide) (by decide) c hc
    rw [isDigitChar, hhex, Bool.true_or]
  have hcomma : isDigitChar ',' = false := by decide
  obtain ⟨hrun, hrest⟩ := takeWhile_dropWhile_append hdigits hcomma rest
  have hvalue : valueFrom 10 0 (writeNatural n) = some n :=
    valueFrom_toDigits (by decide) (by decide) n
  obtain ⟨c, cs, hcs, hc⟩ := writeNatural_eq_cons n
  rw [digits, hrun, hrest]
  split
  · simp_all
  · rename_i hunderscore
    rw [hcs, List.cons.injEq] at hunderscore
    rw [hunderscore.1] at hc
    cases hc
  · rw [hvalue]
    rfl

theorem natural_writeNatural (n : Nat) (rest : List Char) :
    natural (writeNatural n ++ ',' :: rest) = some (n, ',' :: rest) := by
  -- a zero in front is the whole number, so that no letter follows it
  have hsecond {c d : Char} {more : List Char}
      (h : writeNatural n ++ ',' :: rest = c :: d :: more) : d = ',' ∨ d.isDigit = true := by
    obtain ⟨c', cs, hcs, -⟩ := writeNatural_eq_cons n
    rw [hcs, List.cons_append, List.cons.injEq] at h
    cases cs with
    | nil => exact Or.inl (List.cons.inj h.2).1.symm
    | cons d' cs =>
      obtain rfl : d' = d := (List.cons.inj h.2).1
      exact Or.inr (isDigit_of_mem_writeNatural (n := n) (by simp [hcs]))
  unfold natural
  split
  case h_4 => exact digits_writeNatural n rest
  all_goals
    rename_i h
    exact absurd (hsecond h) (by decide)

theorem sign_of_isDigit {c : Char} {cs : List Char} (h : c.isDigit = true) :
    sign (c :: cs) = (false, c :: cs) := by
  unfold sign
  split
  · simp_all
  · simp_all
  · rfl

theorem readsBack_natural {t : IntegerType} {n : Nat} (h : t.holds false n = true) :
    ReadsBack (integer t) (writeNatural n) n := by
  obtain ⟨c, cs, hcs, hc⟩ := writeNatural_eq_cons n
  refine ⟨⟨c, cs, hcs, ?_⟩, fun rest => ?_⟩
  · exact beginsValue_of_isNamePart (isNamePart_of_isDigit hc)
  · have hsign : sign (writeNatural n ++ ',' :: rest) = (false, writeNatural n ++ ',' :: rest) := by
      rw [hcs]
      exact sign_of_isDigit hc
    have hsuffix : suffix? (',' :: rest) = none := rfl
    simp only [integer, signedInteger, hsign, natural_writeNatural, hsuffix, h]
    rfl

/-! ## Quoted texts -/

theorem numberEscape_toDigits (c : Char) (rest : List Char) :
    numberEscape ('\x7b' :: Nat.toDigits 16 c.toNat ++ '\x7d' :: rest) = some (c, rest) := by
  have hhex := isHexDigit_of_mem_toDigits (b := 16) (n := c.toNat) (by decide) (by decide)
  have hbrace : isHexDigit '\x7d' = false := by decide
  obtain ⟨hrun, hrest⟩ := takeWhile_dropWhile_append hhex hbrace rest
  have hvalid : c.toNat.isValidChar := c.valid
  have hlength : 0 < (Nat.toDigits 16 c.toNat).length ∧ (Nat.toDigits 16 c.toNat).length ≤ 6 := by
    refine ⟨Nat.length_toDigits_pos, (Nat.length_toDigits_le_iff (by decide) (by decide)).mpr ?_⟩
    rcases hvalid with h | ⟨-, h⟩ <;> omega
  rw [List.cons_append, numberEscape, hrun, hrest, valueFrom_toDigits (by decide) (by decide)]
  simp only [hlength, hvalid, and_self, if_true, Char.ofNat_toNat]

theorem quoted_escape {c : Char} {text after : List Char} (hjoined : joined? text = none)
    (hescape : escape utf8Bytes numberEscape text = some (c, after))
    (hlength : after.length ≤ text.length) :
    quoted (escape utf8Bytes numberEscape) ('\x5c' :: text) =
      (quoted (escape utf8Bytes numberEscape) after).map fun (content, rest) =>
        (c :: content, rest) := by
  have hpiece : piece (escape utf8Bytes numberEscape) text = some (some c, after) := by
    rw [piece, hjoined, hescape]
    rfl
  rw [quoted, if_neg (by decide), if_pos rfl, hpiece]
  have hless : after.length < ('\x5c' :: text).length := Nat.lt_succ_of_le hlength
  simp only [hless, if_true]
  rfl

/-- A written character is read back, whatever way it is written. -/
theorem quoted_writeCharacter (c : Char) (rest : List Char) :
    quoted (escape utf8Bytes numberEscape) (writeCharacter c ++ rest) =
      (quoted (escape utf8Bytes numberEscape) rest).map fun (content, rest) =>
        (c :: content, rest) := by
  rw [writeCharacter]
  split
  · rename_i letter d hfind
    have hmem := List.mem_of_find?_eq_some hfind
    have hsame := List.find?_some hfind
    obtain rfl : d = c := beq_iff_eq.mp hsame
    have hescape : ∀ e ∈ letterEscapes, joined? (e.1 :: rest) = none ∧
        escape utf8Bytes numberEscape (e.1 :: rest) = some (e.2, rest) := by
      simp only [letterEscapes, List.forall_mem_cons, List.not_mem_nil, false_implies, implies_true,
        and_true]
      exact ⟨⟨rfl, rfl⟩, ⟨rfl, rfl⟩, ⟨rfl, rfl⟩, ⟨rfl, rfl⟩, ⟨rfl, rfl⟩, ⟨rfl, rfl⟩, rfl, rfl⟩
    obtain ⟨hjoined, hread⟩ := hescape _ hmem
    exact quoted_escape hjoined hread (by simp)
  · rename_i hfind
    split
    · have hescape : escape utf8Bytes numberEscape
          ('u' :: ('\x7b' :: Nat.toDigits 16 c.toNat ++ '\x7d' :: rest)) = some (c, rest) :=
        numberEscape_toDigits c rest
      simpa using quoted_escape rfl hescape (by simp; omega)
    · have hplain : ∀ e ∈ letterEscapes, e.2 ≠ c := by
        simpa [List.find?_eq_none] using hfind
      have hquote : c ≠ '\x22' := (hplain ('\x22', '\x22') (by decide)).symm
      have hbackslash : c ≠ '\x5c' := (hplain ('\x5c', '\x5c') (by decide)).symm
      rw [List.singleton_append, quoted, if_neg hquote, if_neg hbackslash]

theorem quoted_flatMap (cs rest : List Char) :
    quoted (escape utf8Bytes numberEscape) (cs.flatMap writeCharacter ++ '\x22' :: rest) =
      some (cs, rest) := by
  induction cs with
  | nil => rw [List.flatMap_nil, List.nil_append, quoted, if_pos rfl]
  | cons c cs ih =>
    rw [List.flatMap_cons, List.append_assoc, quoted_writeCharacter, ih]
    rfl

theorem readsBack_text (cs : List Char) : ReadsBack Ron.text (writeText cs) cs := by
  refine ⟨⟨'\x22', _, rfl, by decide⟩, fun rest => ?_⟩
  simp [writeText, Ron.text, quoted_flatMap]

end MapPainter.Ron
