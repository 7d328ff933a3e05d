import MapPainter.Path
import Mathlib.Data.List.TakeDrop
import Mathlib.Data.List.TakeWhile

/-!
# The last component of a path

A path ends in a component, behind which there may be slashes and single dots. The extension is
what stands behind the last dot of that component, if something stands before that dot as well and
the component is not the parent. `Path.EndsIn` and `Path.Extends` say this of the text of a path,
and the functions on paths find exactly that (`Path.extension?_eq_some_iff`).
-/

namespace MapPainter.Path

/-- What may stand behind the last component of a path. -/
inductive Trail : List Char → Prop
  | nil : Trail []
  | slash {cs : List Char} (h : Trail cs) : Trail ('/' :: cs)
  | dot {cs : List Char} (h : Trail cs) : Trail ('/' :: '.' :: cs)

/-- The last component of a path is `name`. -/
structure EndsIn (path : String) (name : List Char) : Prop where
  split : ∃ dir trail, path.toList = dir ++ name ++ trail ∧ (dir = [] ∨ ∃ d, dir = d ++ ['/']) ∧
    Trail trail
  slash_notMem : '/' ∉ name
  ne_nil : name ≠ []
  ne_dot : name ≠ ['.']

/-- The last component of a path has the extension `ext`. -/
def Extends (path : String) (ext : List Char) : Prop :=
  ∃ stem, EndsIn path (stem ++ '.' :: ext) ∧ stem ≠ [] ∧ '.' ∉ ext ∧
    stem ++ '.' :: ext ≠ ['.', '.']

/-! ## Segments -/

/-- A segment that is not a component. -/
def Idle (segment : List Char) : Prop := segment = [] ∨ segment = ['.']

instance (segment : List Char) : Decidable (Idle segment) := inferInstanceAs (Decidable (_ ∨ _))

theorem idle_of_mem_splitOn {cs : List Char} (h : Trail cs) :
    (∀ segment ∈ cs.splitOn '/', Idle segment) ∧
      ∀ segment ∈ ('.' :: cs).splitOn '/', Idle segment := by
  have hslash (cs : List Char) : ('/' :: cs).splitOn '/' = [] :: cs.splitOn '/' :=
    List.splitOn_append_cons_self [] cs
  have hdot (cs : List Char) : ('.' :: '/' :: cs).splitOn '/' = ['.'] :: cs.splitOn '/' :=
    List.splitOn_append_cons_self ['.'] cs
  induction h with
  | nil => exact ⟨by decide, by decide⟩
  | @slash cs _ ih =>
    rw [hslash, hdot]
    exact ⟨List.forall_mem_cons.mpr ⟨Or.inl rfl, ih.1⟩,
      List.forall_mem_cons.mpr ⟨Or.inr rfl, ih.1⟩⟩
  | @dot cs _ ih =>
    rw [hslash, hdot]
    exact ⟨List.forall_mem_cons.mpr ⟨Or.inl rfl, ih.2⟩,
      List.forall_mem_cons.mpr ⟨Or.inr rfl, ih.2⟩⟩

theorem trail_of_idle {segments : List (List Char)} (h : ∀ segment ∈ segments, Idle segment) :
    Trail (segments.flatMap ('/' :: ·)) := by
  induction segments with
  | nil => exact .nil
  | cons segment segments ih =>
    obtain ⟨hfirst, hrest⟩ := List.forall_mem_cons.mp h
    rw [List.flatMap_cons]
    rcases hfirst with rfl | rfl
    · exact .slash (ih hrest)
    · exact .dot (ih hrest)

theorem intercalate_cons (segment : List Char) (segments : List (List Char)) :
    ['/'].intercalate (segment :: segments) = segment ++ segments.flatMap ('/' :: ·) := by
  induction segments generalizing segment with
  | nil => simp [List.intercalate]
  | cons next segments ih => simp_all [List.intercalate]

theorem intercalate_append_cons (before after : List (List Char)) (segment : List Char) :
    ∃ dir, ['/'].intercalate (before ++ segment :: after) =
        dir ++ segment ++ after.flatMap ('/' :: ·) ∧ (dir = [] ∨ ∃ d, dir = d ++ ['/']) := by
  induction before with
  | nil => exact ⟨[], by simp [intercalate_cons], Or.inl rfl⟩
  | cons first before ih =>
    obtain ⟨dir, htext, hdir⟩ := ih
    refine ⟨first ++ '/' :: dir, ?_, Or.inr ?_⟩
    · rw [List.cons_append, List.intercalate_cons_of_ne_nil (by simp), htext]
      simp
    · rcases hdir with rfl | ⟨d, rfl⟩
      · exact ⟨first, rfl⟩
      · exact ⟨first ++ '/' :: d, by simp⟩

theorem slash_notMem_of_mem_splitOn (cs : List Char) :
    ∀ segment ∈ cs.splitOn '/', '/' ∉ segment := by
  induction cs with
  | nil => decide
  | cons c cs ih =>
    rw [List.splitOn_cons_eq_if_modifyHead]
    split
    · exact List.forall_mem_cons.mpr ⟨List.not_mem_nil, ih⟩
    · rename_i hc
      cases hsegments : cs.splitOn '/' with
      | nil => simp
      | cons first rest =>
        rw [hsegments] at ih
        obtain ⟨hfirst, hrest⟩ := List.forall_mem_cons.mp ih
        refine List.forall_mem_cons.mpr ⟨fun hmem => ?_, hrest⟩
        rcases List.mem_cons.mp hmem with rfl | hmem
        · exact hc rfl
        · exact hfirst hmem

theorem splitOn_append_trail {name trail : List Char} (hname : '/' ∉ name) (h : Trail trail) :
    ∃ after, (name ++ trail).splitOn '/' = name :: after ∧
      ∀ segment ∈ after, Idle segment := by
  cases h with
  | nil => exact ⟨[], by simpa using List.splitOn_eq_singleton hname, by simp⟩
  | slash h =>
    exact ⟨_, List.splitOn_append_cons_self_of_not_mem hname _, (idle_of_mem_splitOn h).1⟩
  | dot h =>
    exact ⟨_, List.splitOn_append_cons_self_of_not_mem hname _, (idle_of_mem_splitOn h).2⟩

/-- The last component of a path is the last segment that is a component. -/
theorem endsIn_iff_splitOn {path : String} {name : List Char} :
    EndsIn path name ↔
      ¬ Idle name ∧ ∃ before after, path.toList.splitOn '/' = before ++ name :: after ∧
        ∀ segment ∈ after, Idle segment := by
  constructor
  · rintro ⟨⟨dir, trail, htext, hdir, htrail⟩, hslash, hnil, hdot⟩
    obtain ⟨after, hsplit, hafter⟩ := splitOn_append_trail hslash htrail
    refine ⟨fun h => h.elim hnil hdot, ?_⟩
    rcases hdir with rfl | ⟨d, rfl⟩
    · exact ⟨[], after, by simpa [htext] using hsplit, hafter⟩
    · refine ⟨d.splitOn '/', after, ?_, hafter⟩
      rw [htext, ← hsplit, ← List.splitOn_append_cons_self]
      simp
  · rintro ⟨hname, before, after, hsplit, hafter⟩
    obtain ⟨dir, htext, hdir⟩ := intercalate_append_cons before after name
    rw [← hsplit, List.intercalate_splitOn] at htext
    refine ⟨⟨dir, _, htext, hdir, trail_of_idle hafter⟩, ?_, fun h => hname (Or.inl h),
      fun h => hname (Or.inr h)⟩
    exact slash_notMem_of_mem_splitOn path.toList name (by simp [hsplit])

/-! ## File names -/

theorem isEmpty_ofList (segment : List Char) :
    (String.ofList segment).isEmpty = segment.isEmpty := by
  rw [Bool.eq_iff_iff, String.isEmpty_iff, List.isEmpty_iff, String.ofList_eq_empty_iff]

/-- The components of a path are its segments that are not idle. -/
theorem filter_names (path : String) :
    (names path).filter (· != ".") =
      ((path.toList.splitOn '/').filter fun segment => ¬ Idle segment).map String.ofList := by
  rw [names, segments, List.filter_filter, List.filter_map]
  congr 1
  apply List.filter_congr
  intro segment _
  have hdot : String.ofList segment = "." ↔ segment = ['.'] := by
    rw [← String.toList_inj, String.toList_ofList]
    exact Iff.rfl
  rw [Function.comp_apply, isEmpty_ofList, Bool.eq_iff_iff]
  simp only [Bool.and_eq_true, bne_iff_ne, ne_eq, hdot, Bool.not_eq_true', decide_eq_true_eq,
    Idle, not_or, List.isEmpty_eq_false_iff, and_comm]

theorem getLast?_filter_eq_some_iff {α : Type*} {p : α → Prop} [DecidablePred p] {xs : List α}
    {a : α} :
    (xs.filter fun x => ¬ p x).getLast? = some a ↔
      ¬ p a ∧ ∃ before after, xs = before ++ a :: after ∧ ∀ x ∈ after, p x := by
  rw [List.getLast?_eq_some_iff]
  constructor
  · rintro ⟨ys, hys⟩
    obtain ⟨before, rest, rfl, -, hrest⟩ := List.filter_eq_append_iff.mp hys
    obtain ⟨passed, after, rfl, -, ha, hafter⟩ := List.filter_eq_cons_iff.mp hrest
    refine ⟨by simpa using ha, before ++ passed, after, by simp, ?_⟩
    simpa [List.filter_eq_nil_iff] using hafter
  · rintro ⟨ha, before, after, rfl, hafter⟩
    exact ⟨before.filter fun x => ¬ p x, by simpa [ha] using hafter⟩

theorem fileName?_eq_some_iff {path name : String} :
    fileName? path = some name ↔ EndsIn path name.toList ∧ name ≠ ".." := by
  have hlast : ((names path).filter (· != ".")).getLast? = some name ↔
      EndsIn path name.toList := by
    rw [filter_names, List.getLast?_map, Option.map_eq_some_iff, endsIn_iff_splitOn,
      ← getLast?_filter_eq_some_iff]
    constructor
    · rintro ⟨segment, hsegment, rfl⟩
      rwa [String.toList_ofList]
    · exact fun h => ⟨name.toList, h, String.ofList_toList⟩
  rw [← hlast, fileName?, Option.bind_eq_bind, Option.bind_eq_some_iff]
  constructor
  · rintro ⟨last, hlast', hname⟩
    split at hname
    · cases hname
    · rename_i hdots
      obtain rfl := Option.some.inj hname
      exact ⟨hlast', fun h => hdots (by simp [h])⟩
  · rintro ⟨hlast', hdots⟩
    exact ⟨name, hlast', by simp [hdots]⟩

/-! ## Parents and joined paths -/

/-- If a path has parents at all, it comes before them. -/
theorem ancestors_eq (path : String) :
    ancestors path = [] ∨ ∃ parents, ancestors path = path :: parents := by
  by_cases h : (components path).length = 0
  · exact Or.inl (if_pos h)
  · exact Or.inr ⟨_, if_neg h⟩

theorem isAbsolute_iff {path : String} : isAbsolute path = true ↔ ['/'] <+: path.toList :=
  String.startsWith_string_iff

theorem endsWith_slash_iff {path : String} : path.endsWith "/" = true ↔ ['/'] <:+ path.toList := by
  rw [← String.endsWith_toSlice, String.Slice.endsWith_string_iff]
  simp

theorem isAbsolute_append {base : String} (hbase : base ≠ "") (more : String) :
    isAbsolute (base ++ more) = isAbsolute base := by
  obtain ⟨c, cs, hcs⟩ := List.exists_cons_of_ne_nil (mt String.toList_eq_nil_iff.mp hbase)
  rw [Bool.eq_iff_iff, isAbsolute_iff, isAbsolute_iff, String.toList_append, hcs]
  simp [List.cons_prefix_cons]

theorem segments_append_slash (base rest : String) :
    segments (base ++ "/" ++ rest) = segments base ++ segments rest := by
  have htext : (base ++ "/" ++ rest).toList = base.toList ++ '/' :: rest.toList := by simp
  rw [segments, htext, List.splitOn_append_cons_self, List.map_append]
  rfl

theorem isAbsolute_eq_false {name : String} (hname : '/' ∉ name.toList) :
    isAbsolute name = false := by
  rw [← Bool.not_eq_true, isAbsolute_iff]
  rintro ⟨rest, hrest⟩
  exact hname (by simp [← hrest])

/-- A path as the front of longer ones: it ends with a slash, unless it is empty. -/
def front (base : String) : String :=
  if base.isEmpty || base.endsWith "/" then base else base ++ "/"

theorem join_of_relative {name : String} (h : isAbsolute name = false) (base : String) :
    join base name = front base ++ name := by
  rw [join, h, if_neg Bool.false_ne_true, front]
  split
  · rfl
  · rfl

theorem front_front (base : String) : front (front base) = front base := by
  by_cases h : (base.isEmpty || base.endsWith "/") = true
  · have hfront : front base = base := if_pos h
    rw [hfront, hfront]
  · have hfront : front base = base ++ "/" := if_neg h
    have hslash : (base ++ "/").endsWith "/" = true :=
      endsWith_slash_iff.mpr ⟨base.toList, by simp⟩
    rw [hfront, front, hslash, Bool.or_true, if_pos rfl]

theorem front_append {name : String} (hne : name ≠ "") (hname : '/' ∉ name.toList)
    (base : String) : front (base ++ name) = base ++ name ++ "/" := by
  have hempty : (base ++ name).isEmpty = false := by simp [hne]
  have hslash : (base ++ name).endsWith "/" = false := by
    rw [← Bool.not_eq_true, endsWith_slash_iff, String.toList_append]
    rintro ⟨cs, hcs⟩
    obtain ⟨c, hc⟩ := Option.isSome_iff_exists.mp
      (List.getLast?_isSome.mpr (mt String.toList_eq_nil_iff.mp hne))
    have hlast := congrArg List.getLast? hcs
    rw [List.getLast?_concat, List.getLast?_append, hc, Option.some_or] at hlast
    obtain rfl := Option.some.inj hlast
    exact hname (List.mem_of_getLast? hc)
  rw [front, hempty, hslash, if_neg (by decide)]

theorem join_eq_append {name : String} (hname : '/' ∉ name.toList) (base : String) :
    ∃ more, join base name = base ++ more := by
  rw [join_of_relative (isAbsolute_eq_false hname), front]
  split
  · exact ⟨name, rfl⟩
  · exact ⟨"/" ++ name, String.append_assoc⟩

theorem segments_of_slash_notMem {name : String} (hname : '/' ∉ name.toList) :
    segments name = [name] := by
  simp [segments, List.splitOn_eq_singleton hname]

theorem join_empty (name : String) : join "" name = name := by
  simp [join]

/-- The segments of a path that a name has been joined to. A slash at the end of the path is not
doubled. -/
theorem segments_join {base name : String} (hbase : base ≠ "") (hname : '/' ∉ name.toList) :
    (segments (join base name) = segments base ++ [name] ∧
        isAbsolute (join base name) = isAbsolute base) ∨
      ∃ front, segments base = front ++ [""] ∧ segments (join base name) = front ++ [name] ∧
        isAbsolute (join base name) = isAbsolute base := by
  have hname' := segments_of_slash_notMem hname
  have hrelative := isAbsolute_eq_false hname
  have hempty : base.isEmpty = false := by
    simpa using hbase
  by_cases hslash : base.endsWith "/" = true
  · right
    obtain ⟨front, hfront⟩ := endsWith_slash_iff.mp hslash
    have hbase' : base = String.ofList front ++ "/" := String.toList_inj.mp (by simp [← hfront])
    have hjoin : join base name = base ++ name := by
      simp [join, hrelative, hslash]
    refine ⟨segments (String.ofList front), ?_, ?_, by rw [hjoin, isAbsolute_append hbase]⟩
    · rw [hbase', ← String.append_empty (s := String.ofList front ++ "/"), segments_append_slash]
      rfl
    · rw [hjoin, hbase', segments_append_slash, hname']
  · left
    have hjoin : join base name = base ++ "/" ++ name := by
      simp [join, hrelative, hslash, hempty]
    refine ⟨by rw [hjoin, segments_append_slash, hname'], ?_⟩
    rw [hjoin, String.append_assoc, isAbsolute_append hbase]

/-! ## Extensions -/

/-- Read from its end, a text is cut at the last mark in it. -/
theorem span_reverse_eq_iff {mark c : Char} {cs after rest : List Char} :
    cs.reverse.span (· != mark) = (after, c :: rest) ↔
      c = mark ∧ cs = rest.reverse ++ mark :: after.reverse ∧ mark ∉ after := by
  rw [List.span_eq_takeWhile_dropWhile, Prod.mk.injEq]
  constructor
  · rintro ⟨rfl, hrest⟩
    have hc : c = mark := by
      have hhead := List.head_dropWhile_not (· != mark) (l := cs.reverse) (by simp [hrest])
      simpa [hrest] using hhead
    subst hc
    have happend := List.takeWhile_append_dropWhile (p := (· != c)) (l := cs.reverse)
    rw [hrest, ← List.reverse_inj] at happend
    refine ⟨rfl, by simpa using happend.symm, fun hmem => ?_⟩
    simpa using List.mem_takeWhile_imp hmem
  · rintro ⟨rfl, rfl, hafter⟩
    have hpos : ∀ d ∈ after, (d != c) = true := by
      intro d hd
      exact bne_iff_ne.mpr fun h => hafter (h ▸ hd)
    rw [List.reverse_append, List.reverse_cons, List.append_assoc, List.singleton_append,
      List.reverse_reverse, List.reverse_reverse, List.takeWhile_append_of_pos hpos,
      List.dropWhile_append_of_pos hpos]
    simp

/-- The extension of a path stands behind the last dot of its last component. -/
theorem extension?_eq_some_iff {path ext : String} :
    extension? path = some ext ↔ Extends path ext.toList := by
  rw [extension?, Option.bind_eq_bind, Option.bind_eq_some_iff]
  constructor
  · rintro ⟨name, hname, hext⟩
    obtain ⟨hends, hdots⟩ := fileName?_eq_some_iff.mp hname
    rcases hspan : name.toList.reverse.span (· != '.') with ⟨after, rest⟩
    rw [hspan] at hext
    simp only at hext
    split at hext
    · rename_i d ds
      obtain rfl := Option.some.inj hext
      obtain ⟨-, hcut, hafter⟩ := span_reverse_eq_iff.mp hspan
      refine ⟨(d :: ds).reverse, ?_, by simp, by simpa using hafter, ?_⟩
      · rwa [String.toList_ofList, ← hcut]
      · rw [String.toList_ofList, ← hcut]
        exact fun h => hdots (String.toList_inj.mp h)
    · cases hext
  · rintro ⟨stem, hends, hstem, hext, hdots⟩
    refine ⟨String.ofList (stem ++ '.' :: ext.toList), fileName?_eq_some_iff.mpr ⟨?_, ?_⟩, ?_⟩
    · rwa [String.toList_ofList]
    · intro h
      exact hdots (by rw [← String.toList_ofList (l := stem ++ _), h]; rfl)
    · have hspan : (stem ++ '.' :: ext.toList).reverse.span (· != '.') =
          (ext.toList.reverse, '.' :: stem.reverse) :=
        span_reverse_eq_iff.mpr ⟨rfl, by simp, by simpa using hext⟩
      rw [String.toList_ofList, hspan]
      obtain ⟨d, ds, hrev⟩ := List.exists_cons_of_ne_nil (List.reverse_ne_nil_iff.mpr hstem)
      simp [hrev]

end MapPainter.Path
