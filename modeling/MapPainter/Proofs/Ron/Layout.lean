import MapPainter.Proofs.Ron.Token

/-!
# Lists and records as they are written

Items on lines of their own are read back one after the other, and so are the fields of a record, if
each one is written with what its reader takes (`Ron.Fills`).
-/

namespace MapPainter.Ron

open Text (Reader isNamePart)

/-! ## Blanks -/

theorem skipBlank_append {blanks : List Char} (h : ∀ c ∈ blanks, isBlank c = true)
    (text : List Char) : skipBlank (blanks ++ text) = skipBlank text := by
  induction blanks with
  | nil => rfl
  | cons c blanks ih =>
    obtain ⟨hc, hblanks⟩ := List.forall_mem_cons.mp h
    have hslash : c ≠ '/' := by
      rintro rfl
      cases hc
    rw [List.cons_append, skipBlank, if_pos hc, ih hblanks]
    all_goals simp [hslash]

theorem skipBlank_cons {c : Char} (hblank : isBlank c = false) (hslash : c ≠ '/')
    (text : List Char) : skipBlank (c :: text) = some (c :: text) := by
  rw [skipBlank, if_neg (by simp [hblank])]
  all_goals simp [hslash]

theorem expect_cons {c : Char} (hblank : isBlank c = false) (hslash : c ≠ '/')
    (text : List Char) : expect c (c :: text) = some text := by
  rw [expect, skipBlank_cons hblank hslash]
  simp only [if_true]

theorem isBlank_of_mem_indent {depth : Nat} {c : Char} (h : c ∈ indent depth) :
    isBlank c = true := by
  rw [List.eq_of_mem_replicate h]
  decide

/-- The beginning of a line is skipped. -/
theorem skipBlank_line {c : Char} (hblank : isBlank c = false) (hslash : c ≠ '/') (depth : Nat)
    (text : List Char) :
    skipBlank ('\n' :: (indent depth ++ c :: text)) = some (c :: text) := by
  have hline : ∀ d ∈ '\n' :: indent depth, isBlank d = true :=
    List.forall_mem_cons.mpr ⟨by decide, fun _ => isBlank_of_mem_indent⟩
  rw [← List.cons_append, skipBlank_append hline, skipBlank_cons hblank hslash]

/-! ## Items -/

/-- Items are read one after the other, from one state to another. -/
inductive Steps {σ : Type} (item : σ → Reader σ) : σ → List (List Char) → σ → Prop
  | nil (s : σ) : Steps item s [] s
  | cons {s s' s'' : σ} {first : List Char} {more : List (List Char)}
    (h : ReadsBack (item s) first s') (hmore : Steps item s' more s'') :
    Steps item s (first :: more) s''

theorem separated_close {σ : Type} {item : σ → Reader σ} {close : Char} {text rest : List Char}
    (h : skipBlank text = some (close :: rest)) (s : σ) :
    separated close item s text = some (s, rest) := by
  rw [separated, h]
  simp only [if_true]

/-- Items on lines of their own, a line further in than what closes them. -/
def writeLines (depth : Nat) (items : List (List Char)) : List Char :=
  items.flatMap fun item => indent (depth + 1) ++ item ++ ",\n".toList

theorem separated_writeLines {σ : Type} {item : σ → Reader σ} {s s' : σ}
    {items : List (List Char)} (h : Steps item s items s') {close : Char}
    (hclose : close = ')' ∨ close = ']') (depth : Nat) (rest : List Char) :
    separated close item s ('\n' :: (writeLines depth items ++ indent depth ++ close :: rest)) =
      some (s', rest) := by
  have hends : isBlank close = false ∧ close ≠ '/' ∧ close ≠ ',' := by
    rcases hclose with rfl | rfl <;> decide
  obtain ⟨hblank, hslash, hcomma⟩ := hends
  induction h with
  | nil s =>
    exact separated_close (skipBlank_line hblank hslash depth rest) s
  | @cons s s' s'' first more hfirst hmore ih =>
    obtain ⟨⟨c, cs, rfl, hc, hcloses⟩, hread⟩ := hfirst
    have hskip (text : List Char) :=
      skipBlank_line hc (fun h => hcloses (by simp [h])) (depth + 1) text
    have hnext (text : List Char) : skipBlank (',' :: text) = some (',' :: text) :=
      skipBlank_cons (by decide) (by decide) text
    have hne : c ≠ close := by
      rintro rfl
      rcases hclose with rfl | rfl <;> exact hcloses (by decide)
    let behind := '\n' :: (writeLines depth more ++ indent depth ++ close :: rest)
    have htext : writeLines depth ((c :: cs) :: more) ++ indent depth ++ close :: rest =
        indent (depth + 1) ++ c :: (cs ++ ',' :: behind) := by
      simp [writeLines, behind]
    have hitem : item s (c :: (cs ++ ',' :: behind)) = some (s', ',' :: behind) := hread behind
    have hless : behind.length < ('\n' :: (indent (depth + 1) ++ c :: (cs ++ ',' :: behind))).length
        := by
      simp only [List.length_cons, List.length_append]
      omega
    rw [htext, separated, hskip]
    simp only [if_neg hne, hitem, hnext, if_neg hcomma.symm, true_and, if_pos hless]
    exact ih

/-! ## Lists -/

/-- A text as an item of a list, put in front of the items before it. -/
def textItem (before : List String) : Reader (List String) := fun text => do
  let (content, rest) ← Ron.text text
  return (String.ofList content :: before, rest)

theorem texts_cons (rest : List Char) :
    texts ('[' :: rest) = (separated ']' textItem [] rest).map fun (items, rest) =>
      (items.reverse, rest) := by
  change (separated ']' textItem [] rest).bind _ = _
  rw [Option.map_eq_bind]
  rfl

theorem steps_textItem (items before : List String) :
    Steps textItem before (items.map fun item => writeText item.toList)
      (items.reverse ++ before) := by
  induction items generalizing before with
  | nil => exact .nil before
  | cons item items ih =>
    have hitem := readsBack_text item.toList
    have htakes : ReadsBack (textItem before) (writeText item.toList) (item :: before) :=
      ⟨hitem.front, fun rest => by simp [textItem, hitem.read]⟩
    rw [List.reverse_cons, List.append_assoc]
    exact .cons htakes (ih (item :: before))

theorem readsBack_texts (depth : Nat) (items : List String) :
    ReadsBack texts (writeList depth (items.map fun item => writeText item.toList)) items := by
  cases items with
  | nil =>
    refine ⟨⟨'[', [']'], rfl, by decide⟩, fun rest => ?_⟩
    have hskip : skipBlank (']' :: ',' :: rest) = some (']' :: ',' :: rest) :=
      skipBlank_cons (by decide) (by decide) _
    change texts ('[' :: ']' :: ',' :: rest) = _
    rw [texts_cons, separated_close hskip]
    rfl
  | cons first more =>
    have htext : writeList depth ((first :: more).map fun item => writeText item.toList) =
        '[' :: '\n' :: (writeLines depth ((first :: more).map fun item => writeText item.toList) ++
          indent depth ++ [']']) := by
      simp [writeList, writeLines]
    refine ⟨⟨'[', _, htext, by decide⟩, fun rest => ?_⟩
    have hlines := separated_writeLines (steps_textItem (first :: more) []) (Or.inr rfl) depth
      (',' :: rest)
    rw [htext, List.cons_append, List.cons_append, List.append_assoc, List.singleton_append,
      texts_cons, hlines]
    simp

/-! ## Records -/

theorem readsBack_of {σ α : Type} {name : String} {reader : Reader α} {put : σ → α → σ}
    {written : List Char} {a : α} {s s' : σ} (h : ReadsBack reader written a)
    (hput : put s a = s') :
    ReadsBack ((FieldReader.of name reader put).read s) written s' :=
  ⟨h.front, fun rest => by simp [FieldReader.of, h.read, hput]⟩

/-- Fields with what is written for them, each read from one state to the next. -/
inductive Fills {σ : Type} : σ → List (FieldReader σ × List Char) → σ → Prop
  | nil (s : σ) : Fills s [] s
  | cons {s s' s'' : σ} {f : FieldReader σ} {written : List Char}
    {more : List (FieldReader σ × List Char)} (h : ReadsBack (f.read s) written s')
    (hmore : Fills s' more s'') : Fills s ((f, written) :: more) s''

section Record

variable {σ : Type} {e : Extensions} {fields : List (FieldReader σ)} {limit : Nat}

/-- The text of a field. -/
def writeField (name : String) (written : List Char) : List Char :=
  name.toList ++ ": ".toList ++ written

theorem readsBack_field {f : FieldReader σ} {seen : List String} {s s' : σ} {written : List Char}
    (hname : IsName f.name.toList)
    (hfind : fields.find? (fun g => g.name.toList == f.name.toList) = some f)
    (hseen : f.name ∉ seen) (h : ReadsBack (f.read s) written s') :
    ReadsBack (readField e fields limit (seen, s)) (writeField f.name written)
      (f.name :: seen, s') := by
  obtain ⟨⟨c, cs, rfl, hc, hcloses⟩, hread⟩ := h
  simp only [List.cons_append] at hread
  obtain ⟨d, ds, hd, -⟩ := hname.front
  refine ⟨⟨d, _, by rw [writeField, hd]; rfl, ?_⟩, fun rest => ?_⟩
  · exact beginsValue_of_isNamePart (hname.part d (by simp [hd]))
  · have htext : writeField f.name (c :: cs) ++ ',' :: rest =
        f.name.toList ++ ':' :: ' ' :: c :: (cs ++ ',' :: rest) := by
      simp [writeField]
    have hcolon := expect_cons (c := ':') (by decide) (by decide)
    have hvalue (text : List Char) : skipBlank (' ' :: c :: text) = some (c :: text) := by
      have hblank : ∀ d ∈ [' '], isBlank d = true := List.forall_mem_singleton.mpr (by decide)
      rw [← List.singleton_append, skipBlank_append hblank]
      exact skipBlank_cons hc (fun h => hcloses (by simp [h])) text
    rw [htext, readField, name_append hname (Or.inl rfl)]
    simp [hcolon, hvalue, hfind, hseen, hread]

/-- Names of fields, each of them once. -/
structure Named (names : List String) : Prop where
  isName : ∀ n ∈ names, IsName n.toList
  nodup : names.Nodup

theorem find?_name {f : FieldReader σ} (hf : f ∈ fields)
    (hnodup : (fields.map FieldReader.name).Nodup) :
    fields.find? (fun g => g.name.toList == f.name.toList) = some f := by
  induction fields with
  | nil => cases hf
  | cons first fields ih =>
    rw [List.map_cons, List.nodup_cons] at hnodup
    rcases List.mem_cons.mp hf with rfl | hf
    · simp
    · have hne : first.name ≠ f.name := by
        intro h
        exact hnodup.1 (h ▸ List.mem_map_of_mem hf)
      rw [List.find?_cons_of_neg]
      · exact ih hf hnodup.2
      · simpa [String.toList_inj] using hne

theorem steps_of_fills {s s' : σ} {filled : List (FieldReader σ × List Char)}
    (h : Fills s filled s') (hnames : Named (fields.map FieldReader.name)) {seen : List String}
    (hmem : ∀ p ∈ filled, p.1 ∈ fields) (hnodup : (filled.map fun p => p.1.name).Nodup)
    (hseen : ∀ p ∈ filled, p.1.name ∉ seen) :
    ∃ seen', Steps (readField e fields limit) (seen, s)
      (filled.map fun p => writeField p.1.name p.2) (seen', s') := by
  induction h generalizing seen with
  | nil s => exact ⟨seen, .nil _⟩
  | @cons s s' s'' f written more hread hmore ih =>
    obtain ⟨hf, hmem⟩ := List.forall_mem_cons.mp hmem
    obtain ⟨hnew, hseen⟩ := List.forall_mem_cons.mp hseen
    rw [List.map_cons, List.nodup_cons] at hnodup
    have hother : ∀ p ∈ more, p.1.name ∉ f.name :: seen := by
      intro p hp hin
      rcases List.mem_cons.mp hin with heq | hin
      · exact hnodup.1 (heq ▸ List.mem_map_of_mem hp)
      · exact hseen p hp hin
    obtain ⟨seen', hsteps⟩ := ih hmem hnodup.2 hother
    have hname : IsName f.name.toList := hnames.isName f.name (List.mem_map_of_mem hf)
    exact ⟨seen', .cons (readsBack_field hname (find?_name hf hnames.nodup) hnew hread) hsteps⟩

theorem record_writeRecord (he : e.titled = false) (title : String) {s s' : σ}
    {filled : List (FieldReader σ × List Char)} (h : Fills s filled s')
    (hnames : Named (filled.map fun p => p.1.name)) (depth : Nat) (rest : List Char) :
    record e title (filled.map Prod.fst) limit s
      (writeRecord depth (filled.map fun p => (p.1.name, p.2)) ++ rest) = some (s', rest) := by
  have htext : writeRecord depth (filled.map fun p => (p.1.name, p.2)) ++ rest =
      '(' :: '\n' :: (writeLines depth (filled.map fun p => writeField p.1.name p.2) ++
        indent depth ++ ')' :: rest) := by
    simp [writeRecord, writeLines, writeField, List.flatMap_map]
  have htitle (text : List Char) : takeTitle e.titled title ('(' :: text) = some ('(' :: text) := by
    have hpart : isNamePart '(' = false := by decide
    simp [takeTitle, hpart, he]
  have hopen := expect_cons (c := '(') (by decide) (by decide)
  have hfields : (filled.map Prod.fst).map FieldReader.name = filled.map fun p => p.1.name := by
    rw [List.map_map]
    rfl
  have hnone : ∀ p ∈ filled, p.1.name ∉ ([] : List String) := fun _ _ => List.not_mem_nil
  have hmem : ∀ p ∈ filled, p.1 ∈ filled.map Prod.fst := fun p hp => List.mem_map_of_mem hp
  have hread : ∃ seen, Steps (readField e (filled.map Prod.fst) limit) ([], s)
      (filled.map fun p => writeField p.1.name p.2) (seen, s') :=
    steps_of_fills h (hfields ▸ hnames) hmem hnames.nodup hnone
  obtain ⟨seen, hsteps⟩ := hread
  have hlines := separated_writeLines hsteps (Or.inl rfl) depth rest
  rw [htext, record]
  simp only [htitle, hopen, hlines, Option.bind_eq_bind, Option.bind_some]
  rfl

theorem readsBack_record (he : e.titled = false) (title : String) {s s' : σ}
    {filled : List (FieldReader σ × List Char)} (h : Fills s filled s')
    (hnames : Named (filled.map fun p => p.1.name)) (depth : Nat) :
    ReadsBack (record e title (filled.map Prod.fst) limit s)
      (writeRecord depth (filled.map fun p => (p.1.name, p.2))) s' :=
  ⟨⟨'(', _, rfl, by decide⟩, fun rest => record_writeRecord he title h hnames depth (',' :: rest)⟩

end Record

end MapPainter.Ron
