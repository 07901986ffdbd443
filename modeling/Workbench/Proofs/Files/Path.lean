import Mathlib.Data.List.TakeWhile
import Workbench.Files.Path
import Workbench.Proofs.Text.Split

/-!
The parts of a path, and what is known of its last one: the name of the file, its stem and its extension, and the path
of the file in a directory.
-/

namespace Workbench

inductive PathPart where
  | root
  | here
  | up
  | name (text : List Char)
deriving DecidableEq, Repr

namespace Path

/-- What stands between slashes. Nothing, and a single dot, are no parts. -/
def part? (segment : List Char) : Option PathPart :=
  if segment = [] ∨ segment = ['.'] then none
  else if segment = ['.', '.'] then some .up
  else some (.name segment)

/-- The part before all others: a slash at the start makes a path absolute, and a single dot counts there. -/
def start : List (List Char) → List PathPart
  | [] :: _ :: _ => [.root]
  | ['.'] :: _ => [.here]
  | _ => []

def components (p : Path) : List PathPart :=
  let segments := Text.splitAt '/' p.toList
  start segments ++ segments.filterMap part?

/-- The parts of the directory of a path; the root has none, and neither has the empty path. -/
def parent? (p : Path) : Option (List PathPart) :=
  match p.components.getLast? with
  | none | some .root => none
  | some _ => some p.components.dropLast

section Split

variable {cs segment : List Char}

theorem part?_eq_none_iff : part? segment = none ↔ segment = [] ∨ segment = ['.'] := by
  unfold part?
  split
  next h => exact iff_of_true rfl h
  next h =>
    refine iff_of_false ?_ h
    split
    · exact Option.some_ne_none _
    · exact Option.some_ne_none _

theorem part?_eq_name_iff
    : part? segment = some (.name segment) ↔ segment ≠ [] ∧ segment ≠ ['.'] ∧ segment ≠ ['.', '.'] := by
  unfold part?
  rw [← and_assoc, ← not_or]
  split
  next h => simp [h]
  next h =>
    split
    next hdots => simp [hdots]
    next hdots => simp [h, hdots]

variable {segments : List (List Char)} {found : Option (List Char × List Char)}

/-- What is found of segments: the name in the last part of them, and what stands before it, slashes included. -/
inductive LastName : List (List Char) → Option (List Char × List Char) → Prop where
  | nothing {segments : List (List Char)} : (∀ segment ∈ segments, part? segment = none) → LastName segments none
  | up (before : List (List Char)) {skipped : List (List Char)} : (∀ segment ∈ skipped, part? segment = none) →
    LastName (before ++ ['.', '.'] :: skipped) none
  | name (before : List (List Char)) {name : List Char} {skipped : List (List Char)} :
    part? name = some (.name name) → (∀ segment ∈ skipped, part? segment = none) →
    LastName (before ++ name :: skipped) (some (Text.closed '/' before, name))

theorem LastName.concat (h : LastName segments found) (hsegment : part? segment = none)
    : LastName (segments ++ [segment]) found := by
  have hskipped {skipped : List (List Char)} (h : ∀ segment ∈ skipped, part? segment = none)
      : ∀ other ∈ skipped ++ [segment], part? other = none := by
    rw [List.forall_mem_append, List.forall_mem_singleton]
    exact ⟨h, hsegment⟩
  cases h with
  | nothing h => exact .nothing (hskipped h)
  | up before h =>
    rw [List.append_assoc]
    exact .up before (hskipped h)
  | name before hname h =>
    rw [List.append_assoc]
    exact .name before hname (hskipped h)

theorem lastName_segment {name : List Char} (before : List (List Char)) (hname : name ≠ []) (hdot : name ≠ ['.'])
    : LastName (before ++ [name]) (if name = ['.', '.'] then none else some (Text.closed '/' before, name)) := by
  split
  next hdots =>
    rw [hdots]
    exact .up before (by simp)
  next hdots => exact .name before (part?_eq_name_iff.2 ⟨hname, hdot, hdots⟩) (by simp)

theorem takeWhile_ne_dot {c : Char} (hdot : c = '.' → cs ≠ []) (hhere : ∀ rest, c = '.' → cs ≠ '/' :: rest)
    : (c :: cs).takeWhile (· ≠ '/') ≠ ['.'] := by
  intro h
  rw [List.takeWhile_cons] at h
  split at h
  next =>
    obtain ⟨hc, hrest⟩ := List.cons.inj h
    cases cs with
    | nil => exact hdot hc rfl
    | cons d cs =>
      have hd : d = '/' := by
        simpa [List.takeWhile_cons] using hrest
      subst hd
      exact hhere cs hc rfl
  next => contradiction

theorem lastName_takeWhile (cs : List Char) (hnil : cs.takeWhile (· ≠ '/') ≠ []) (hdot : cs.takeWhile (· ≠ '/') ≠ ['.'])
    : LastName (Text.splitAt '/' cs.reverse)
        (if cs.takeWhile (· ≠ '/') = ['.', '.'] then none
          else some ((cs.dropWhile (· ≠ '/')).reverse, (cs.takeWhile (· ≠ '/')).reverse)) := by
  have hsplit := cs.takeWhile_append_dropWhile (p := (· ≠ '/'))
  have hslash : '/' ∉ cs.takeWhile (· ≠ '/') := by
    intro hmem
    simpa using List.mem_takeWhile_imp hmem
  have hhead := List.head?_dropWhile_not (· ≠ '/') cs
  generalize cs.takeWhile (· ≠ '/') = name at *
  generalize cs.dropWhile (· ≠ '/') = rest at *
  subst hsplit
  have hdots : name = ['.', '.'] ↔ name.reverse = ['.', '.'] := by
    rw [List.reverse_eq_iff]
    rfl
  simp only [hdots]
  have hnil' : name.reverse ≠ [] := by
    simpa using hnil
  have hdot' : name.reverse ≠ ['.'] := by
    simpa [List.reverse_eq_iff] using hdot
  have hslash' : '/' ∉ name.reverse := by
    simpa using hslash
  cases rest with
  | nil =>
    rw [List.append_nil]
    rw [Text.splitAt_of_not_mem hslash']
    exact lastName_segment [] hnil' hdot'
  | cons c rest =>
    have hc : c = '/' := by
      simpa using hhead
    subst hc
    rw [List.reverse_append, List.reverse_cons, List.append_assoc, List.singleton_append]
    rw [Text.splitAt_append_sep_append]
    rw [Text.splitAt_of_not_mem hslash']
    rw [← Text.closed_splitAt '/' rest.reverse]
    exact lastName_segment _ hnil' hdot'

theorem lastName_splitReversed (cs : List Char)
    : LastName (Text.splitAt '/' cs.reverse) (splitReversed cs) := by
  fun_induction splitReversed cs with
  | case1 => exact .nothing (by simp [Text.splitAt, part?])
  | case2 cs ih =>
    rw [List.reverse_cons]
    rw [Text.splitAt_append_sep_append]
    exact ih.concat (by simp [part?])
  | case3 => exact .nothing (by decide)
  | case4 cs ih =>
    rw [List.reverse_cons, List.reverse_cons, List.append_assoc]
    rw [List.singleton_append]
    rw [Text.splitAt_append_sep_append]
    exact ih.concat (by simp [part?])
  | case5 c cs hslash hdot hhere name hname =>
    have h := lastName_takeWhile (c :: cs) (by simpa using hslash) (takeWhile_ne_dot hdot hhere)
    rw [if_pos hname] at h
    exact h
  | case6 c cs hslash hdot hhere name hname =>
    have h := lastName_takeWhile (c :: cs) (by simpa using hslash) (takeWhile_ne_dot hdot hhere)
    rw [if_neg hname] at h
    exact h

theorem lastName_split? (p : Path) : LastName (Text.splitAt '/' p.toList) p.split? := by
  have h := lastName_splitReversed p.toList.reverse
  rw [List.reverse_reverse] at h
  exact h

variable {p : Path} {before skipped : List (List Char)} {dir name : List Char} {part : PathPart}

theorem last_part_unique {before' skipped' : List (List Char)} {segment' : List Char}
    (h : before ++ segment :: skipped = before' ++ segment' :: skipped') (hsegment : part? segment ≠ none)
    (hsegment' : part? segment' ≠ none) (hskipped : ∀ other ∈ skipped, part? other = none)
    (hskipped' : ∀ other ∈ skipped', part? other = none)
    : before = before' ∧ segment = segment' := by
  -- The last segment that is a part is the only one with nothing but skipped ones after it.
  rcases List.append_eq_append_iff.1 h with ⟨more, rfl, hmore⟩ | ⟨more, rfl, hmore⟩
  · cases more with
    | nil => exact ⟨(List.append_nil before).symm, (List.cons.inj hmore).1⟩
    | cons other more =>
      refine absurd (hskipped segment' ?_) hsegment'
      rw [(List.cons.inj hmore).2]
      exact List.mem_append_right _ List.mem_cons_self
  · cases more with
    | nil => exact ⟨List.append_nil before', (List.cons.inj hmore).1.symm⟩
    | cons other more =>
      refine absurd (hskipped' segment ?_) hsegment
      rw [(List.cons.inj hmore).2]
      exact List.mem_append_right _ List.mem_cons_self

theorem LastName.eq_some (h : LastName segments found) (hsegments : segments = before ++ name :: skipped)
    (hname : part? name = some (.name name)) (hskipped : ∀ segment ∈ skipped, part? segment = none)
    : found = some (Text.closed '/' before, name) := by
  have hpart : part? name ≠ none := by
    rw [hname]
    exact Option.some_ne_none _
  cases h with
  | nothing h =>
    refine absurd (h name ?_) hpart
    rw [hsegments]
    exact List.mem_append_right _ List.mem_cons_self
  | up before' h =>
    obtain ⟨-, rfl⟩ := last_part_unique hsegments (by decide) hpart h hskipped
    exact absurd hname (by decide)
  | @name before' name' skipped' hname' h =>
    have hpart' : part? name' ≠ none := by
      rw [hname']
      exact Option.some_ne_none _
    obtain ⟨rfl, rfl⟩ := last_part_unique hsegments hpart' hpart h hskipped
    rfl

theorem split?_eq_some_iff
    : p.split? = some (dir, name)
        ↔ part? name = some (.name name)
          ∧ ∃ before skipped, Text.splitAt '/' p.toList = before ++ name :: skipped
            ∧ Text.closed '/' before = dir ∧ ∀ segment ∈ skipped, part? segment = none := by
  have h := lastName_split? p
  constructor
  · intro hsplit
    rw [hsplit] at h
    generalize hsegments : Text.splitAt '/' p.toList = segments at h
    cases h with
    | name before hname hskipped => exact ⟨hname, before, _, rfl, rfl, hskipped⟩
  · rintro ⟨hname, before, skipped, hsegments, rfl, hskipped⟩
    exact h.eq_some hsegments hname hskipped

theorem components_eq (h : Text.splitAt '/' p.toList = before ++ segment :: skipped) (hsegment : part? segment = some part)
    (hskipped : ∀ segment ∈ skipped, part? segment = none)
    : p.components = start (before ++ segment :: skipped) ++ before.filterMap part? ++ [part] := by
  unfold components
  rw [h]
  dsimp only
  rw [List.filterMap_append, List.filterMap_cons_some hsegment]
  rw [List.filterMap_eq_nil_iff.2 hskipped]
  rw [List.append_assoc]

theorem start_of_part (h : part? segment ≠ none) (rest : List (List Char)) : start (segment :: rest) = [] := by
  unfold start
  split
  next heq =>
    rw [(List.cons.inj heq).1] at h
    exact absurd rfl h
  next heq =>
    rw [(List.cons.inj heq).1] at h
    exact absurd (by decide) h
  next => rfl

theorem start_cons_cons (first second : List Char) (rest : List (List Char))
    : start (first :: second :: rest) = if first = [] then [.root] else if first = ['.'] then [.here] else [] := by
  by_cases hroot : first = []
  · rw [if_pos hroot, hroot]
    rfl
  by_cases hhere : first = ['.']
  · rw [if_neg hroot, if_pos hhere, hhere]
    rfl
  · rw [if_neg hroot, if_neg hhere]
    apply start_of_part
    rw [ne_eq, part?_eq_none_iff]
    exact not_or.2 ⟨hroot, hhere⟩

theorem start_append {segment' : List Char} (h : part? segment ≠ none) (h' : part? segment' ≠ none)
    (skipped skipped' : List (List Char))
    : start (before ++ segment :: skipped) = start (before ++ segment' :: skipped') := by
  match before with
  | [] =>
    rw [List.nil_append, List.nil_append]
    rw [start_of_part h, start_of_part h']
  | [first] =>
    rw [List.singleton_append, List.singleton_append]
    rw [start_cons_cons, start_cons_cons]
  | first :: second :: rest =>
    rw [List.cons_append, List.cons_append, List.cons_append, List.cons_append]
    rw [start_cons_cons, start_cons_cons]

theorem start_cases (segments : List (List Char))
    : start segments = [] ∨ start segments = [.root] ∨ start segments = [.here] := by
  unfold start
  split
  next => exact .inr (.inl rfl)
  next => exact .inr (.inr rfl)
  next => exact .inl rfl

theorem fileName?_eq_some_iff {n : String}
    : p.fileName? = some n ↔ p.components.getLast? = some (.name n.toList) := by
  have h := lastName_split? p
  unfold fileName?
  generalize hsegments : Text.splitAt '/' p.toList = segments at h
  generalize p.split? = found at h
  cases h with
  | nothing h =>
    unfold components
    rw [hsegments]
    dsimp only
    rw [List.filterMap_eq_nil_iff.2 h]
    rw [List.append_nil]
    rcases start_cases segments with hstart | hstart | hstart
    all_goals
      rw [hstart]
      simp
  | up before hskipped =>
    rw [components_eq hsegments (by decide : part? ['.', '.'] = some .up) hskipped]
    simp
  | @name before name skipped hname hskipped =>
    rw [components_eq hsegments hname hskipped]
    rw [List.getLast?_concat]
    rw [Option.map_some, Option.some.injEq, Option.some.injEq, PathPart.name.injEq]
    rw [← String.toList_inj, String.toList_ofList]

end Split

section Extension

variable {p : Path} {stem ext name dir : List Char}

def stem? (p : Path) : Option String :=
  p.split?.map fun parts => String.ofList (splitName parts.2).1

theorem splitName_last_dot (stem : List Char) (hext : '.' ∉ ext)
    : splitName (stem ++ '.' :: ext) = if stem = [] then ('.' :: ext, none) else (stem, some ext) := by
  have hext' : '.' ∉ ext.reverse := by
    rwa [List.mem_reverse]
  have hreverse : (stem ++ '.' :: ext).reverse = ext.reverse ++ '.' :: stem.reverse := by
    simp
  have htake : (stem ++ '.' :: ext).reverse.takeWhile (· ≠ '.') = ext.reverse := by
    rw [hreverse]
    rw [Text.takeWhile_append_of_not_mem hext']
    simp
  have hdrop : (stem ++ '.' :: ext).reverse.dropWhile (· ≠ '.') = '.' :: stem.reverse := by
    rw [hreverse]
    rw [List.dropWhile_append_of_pos]
    · simp
    · intro c hc
      rw [decide_eq_true_eq]
      rintro rfl
      exact hext' hc
  unfold splitName
  rw [htake, hdrop]
  rw [List.reverse_reverse, List.reverse_cons, List.reverse_reverse, List.dropLast_concat]
  cases stem with
  | nil => rfl
  | cons c stem => rfl

theorem splitName_of_not_mem (h : '.' ∉ name) : splitName name = (name, none) := by
  have hdrop : name.reverse.dropWhile (· ≠ '.') = [] := by
    rw [List.dropWhile_eq_nil_iff]
    intro c hc
    rw [decide_eq_true_eq]
    rintro rfl
    exact h (List.mem_reverse.1 hc)
  unfold splitName
  rw [hdrop]
  rfl

theorem splitName_cases (name : List Char)
    : ('.' ∉ name.tail ∧ splitName name = (name, none))
        ∨ ∃ stem ext, stem ≠ [] ∧ '.' ∉ ext ∧ name = stem ++ '.' :: ext ∧ splitName name = (stem, some ext) := by
  by_cases hdot : '.' ∈ name
  · obtain ⟨ext, stem, hreverse, hext⟩ := List.eq_append_cons_of_mem (List.mem_reverse.2 hdot)
    have hname : name = stem.reverse ++ '.' :: ext.reverse := by
      rw [← List.reverse_reverse name]
      rw [hreverse]
      simp
    have hext' : '.' ∉ ext.reverse := by
      rwa [List.mem_reverse]
    have hsplit := splitName_last_dot stem.reverse hext'
    rw [← hname] at hsplit
    split at hsplit
    next hnil =>
      rw [hnil, List.nil_append] at hname
      rw [hsplit, hname]
      exact .inl ⟨hext', rfl⟩
    next hne => exact .inr ⟨_, _, hne, hext', hname, hsplit⟩
  · exact .inl ⟨fun hmem => hdot (List.mem_of_mem_tail hmem), splitName_of_not_mem hdot⟩

theorem splitName_fst_ne_nil (h : name ≠ []) : (splitName name).1 ≠ [] := by
  rcases splitName_cases name with ⟨-, hsplit⟩ | ⟨stem, ext, hstem, -, -, hsplit⟩
  · rw [hsplit]
    exact h
  · rw [hsplit]
    exact hstem

theorem splitName_fst_isPrefix (name : List Char) : (splitName name).1 <+: name := by
  rcases splitName_cases name with ⟨-, hsplit⟩ | ⟨stem, ext, -, -, hname, hsplit⟩
  · simp [hsplit]
  · rw [hsplit, hname]
    exact List.prefix_append stem _

theorem fileName?_cases {file : String} (h : p.fileName? = some file)
    : (p.stem? = some file ∧ p.extension? = none ∧ '.' ∉ file.toList.tail)
        ∨ ∃ stem ext, p.stem? = some stem ∧ p.extension? = some ext ∧ file = stem ++ "." ++ ext ∧ stem ≠ ""
          ∧ '.' ∉ ext.toList := by
  unfold fileName? at h
  obtain ⟨⟨dir, name⟩, hsplit, rfl⟩ := Option.map_eq_some_iff.1 h
  unfold stem? extension?
  rw [hsplit]
  dsimp only [Option.map_some, Option.bind_some]
  rcases splitName_cases name with ⟨hdot, hname⟩ | ⟨stem, ext, hstem, hext, rfl, hname⟩
  · left
    rw [hname]
    refine ⟨rfl, rfl, ?_⟩
    rw [String.toList_ofList]
    exact hdot
  · right
    rw [hname]
    refine ⟨String.ofList stem, String.ofList ext, rfl, rfl, ?_, ?_, ?_⟩
    · rw [← String.toList_inj]
      simp
    · rw [ne_eq, ← String.toList_inj, String.toList_ofList]
      exact hstem
    · rw [String.toList_ofList]
      exact hext

theorem part?_append_dot (hstem : stem ≠ []) (hext : ext ≠ [])
    : part? (stem ++ '.' :: ext) = some (.name (stem ++ '.' :: ext)) := by
  have hlength : 2 < (stem ++ '.' :: ext).length := by
    have hstem' := List.length_pos_iff.2 hstem
    have hext' := List.length_pos_iff.2 hext
    rw [List.length_append, List.length_cons]
    omega
  have hne {segment : List Char} (h : segment.length ≤ 2) : stem ++ '.' :: ext ≠ segment := by
    rintro rfl
    omega
  exact part?_eq_name_iff.2 ⟨hne (by decide), hne (by decide), hne (by decide)⟩

theorem split?_withExtension {ext : String} (h : p.split? = some (dir, name)) (hext : ext.toList ≠ [])
    (hslash : '/' ∉ ext.toList)
    : (p.withExtension ext).split? = some (dir, (splitName name).1 ++ '.' :: ext.toList)
        ∧ (p.withExtension ext).components
            = p.components.dropLast ++ [.name ((splitName name).1 ++ '.' :: ext.toList)] := by
  obtain ⟨hname, before, skipped, hsegments, rfl, hskipped⟩ := split?_eq_some_iff.1 h
  obtain ⟨rest, -, hrest, hbefore⟩ := Text.splitAt_eq_append hsegments
  have hpart := part?_append_dot (splitName_fst_ne_nil (part?_eq_name_iff.1 hname).1) hext
  have hnew : '/' ∉ (splitName name).1 ++ '.' :: ext.toList := by
    have hstem : '/' ∉ (splitName name).1 :=
      fun hmem => (Text.splitAt_eq_cons hrest).1 ((splitName_fst_isPrefix name).subset hmem)
    simp [hstem, hslash]
  have hsegments' : Text.splitAt '/' (p.withExtension ext).toList
      = before ++ [(splitName name).1 ++ '.' :: ext.toList] := by
    unfold withExtension
    rw [h]
    dsimp only
    rw [String.toList_ofList, List.append_assoc]
    rw [Text.splitAt_closed_append hbefore]
    rw [Text.splitAt_of_not_mem hnew]
  refine ⟨split?_eq_some_iff.2 ⟨hpart, before, [], hsegments', rfl, by simp⟩, ?_⟩
  rw [components_eq hsegments' hpart (by simp)]
  rw [components_eq hsegments hname hskipped]
  rw [List.dropLast_concat]
  rw [start_append (hpart.trans_ne (Option.some_ne_none _)) (hname.trans_ne (Option.some_ne_none _)) [] skipped]

theorem withExtension_spec {ext : String} (h : p.fileName?.isSome) (hext : ext.toList ≠ []) (hslash : '/' ∉ ext.toList)
    (hdot : '.' ∉ ext.toList)
    : (p.withExtension ext).parent? = p.parent?
        ∧ (p.withExtension ext).fileName? = p.stem?.map (· ++ "." ++ ext)
        ∧ (p.withExtension ext).extension? = some ext := by
  obtain ⟨file, hfile⟩ := Option.isSome_iff_exists.1 h
  have hlast := fileName?_eq_some_iff.1 hfile
  unfold fileName? at hfile
  obtain ⟨⟨dir, name⟩, hsplit, -⟩ := Option.map_eq_some_iff.1 hfile
  obtain ⟨hsplit', hcomponents⟩ := split?_withExtension hsplit hext hslash
  have hnil := (part?_eq_name_iff.1 (split?_eq_some_iff.1 hsplit).1).1
  refine ⟨?_, ?_, ?_⟩
  · unfold parent?
    rw [hcomponents]
    rw [hlast]
    rw [List.getLast?_concat, List.dropLast_concat]
  · unfold fileName? stem?
    rw [hsplit, hsplit']
    rw [Option.map_some, Option.map_some, Option.map_some]
    rw [Option.some.injEq, ← String.toList_inj]
    simp
  · unfold extension?
    rw [hsplit']
    rw [Option.bind_some]
    rw [splitName_last_dot _ hdot]
    rw [if_neg (splitName_fst_ne_nil hnil)]
    rw [Option.map_some, String.ofList_toList]

end Extension

section Join

theorem toList_join (p q : Path)
    : (join p q).toList
        = if q.isAbsolute then q.toList
          else if p.toList.getLast?.all (· == '/') then p.toList ++ q.toList
          else p.toList ++ '/' :: q.toList := by
  unfold join
  split
  · rfl
  · split
    · exact String.toList_append
    · rw [String.toList_append, String.toList_append]
      rw [List.append_assoc]
      rfl

theorem join_eq_join_iff {p q r : Path} (hlength : q.toList.length ≤ r.toList.length)
    (habsolute : r.isAbsolute = true → q.isAbsolute = true)
    : join p q = join p r ↔ q = r := by
  constructor
  · intro h
    have hlist := congrArg String.toList h
    rw [toList_join, toList_join] at hlist
    apply String.toList_inj.1
    by_cases hr : r.isAbsolute = true
    · rw [if_pos hr, if_pos (habsolute hr)] at hlist
      exact hlist
    rw [if_neg hr] at hlist
    by_cases hq : q.isAbsolute = true
    · rw [if_pos hq] at hlist
      have hlengths := congrArg List.length hlist
      split at hlist
      next hslash =>
        rw [if_pos hslash, List.length_append] at hlengths
        rw [List.eq_nil_of_length_eq_zero (l := p.toList) (by omega)] at hlist
        exact hlist
      next hslash =>
        rw [if_neg hslash, List.length_append, List.length_cons] at hlengths
        omega
    · rw [if_neg hq] at hlist
      split at hlist
      next => exact List.append_cancel_left hlist
      next => exact (List.cons.inj (List.append_cancel_left hlist)).2
  · rintro rfl
    rfl

end Join

end Path

end Workbench
