import Mathlib.Data.List.Induction
import Workbench.Files.System

/-!
What a host may rely on when it reads and writes files, and that the store keeps to it.
-/

namespace Workbench

/-- What the files hold is what was written last, a write that fails changes nothing, and a write to
one path leaves alone what the paths apart from it hold. -/
structure FileSystem.Lawful {φ : Type} [FileSystem φ] (content? : φ → Path → Option ByteArray)
    (Apart : Path → Path → Prop) : Prop where
  readText_content : ∀ p s, content? ((FileSystem.readText p).run s).2 = content? s
  readText_ok : ∀ p s t, ((FileSystem.readText p).run s).1 = .ok t → content? s p = some t.toUTF8
  write_ok : ∀ p bytes s, ((FileSystem.write p bytes).run s).1 = .ok () →
    content? ((FileSystem.write p bytes).run s).2 p = some bytes
  write_apart : ∀ p q bytes s, Apart p q → ((FileSystem.write p bytes).run s).1 = .ok () →
    content? ((FileSystem.write p bytes).run s).2 q = content? s q
  write_error : ∀ p bytes s e, ((FileSystem.write p bytes).run s).1 = .error e →
    content? ((FileSystem.write p bytes).run s).2 = content? s

namespace FileStore

variable {s : FileStore} {place q dir : Place} {content : ByteArray}

theorem content?_put_self : (s.put place content).content? place = some content := by
  unfold put
  split
  · next hsome =>
    unfold content? at hsome ⊢
    dsimp only
    rw [List.find?_map]
    obtain ⟨f, hf⟩ := Option.isSome_iff_exists.1 hsome
    obtain ⟨g, hg, -⟩ := Option.map_eq_some_iff.1 hf
    have hkey : ((fun f : Place × ByteArray => decide (f.1 = place)) ∘
        fun f => if f.1 = place then (place, content) else f) = fun f => decide (f.1 = place) := by
      funext f
      dsimp only [Function.comp]
      split
      · next heq => simp [heq]
      · rfl
    rw [hkey, hg]
    have hplace := List.find?_some hg
    simp [of_decide_eq_true hplace]
  · next hnone =>
    unfold content? at hnone ⊢
    dsimp only
    rw [List.find?_append]
    rw [Option.isSome_map, Option.not_isSome_iff_eq_none] at hnone
    rw [hnone]
    simp

theorem content?_put_of_ne (h : q ≠ place) : (s.put place content).content? q = s.content? q := by
  unfold put
  split
  · unfold content?
    dsimp only
    rw [List.find?_map]
    have hkey : ((fun f : Place × ByteArray => decide (f.1 = q)) ∘
        fun f => if f.1 = place then (place, content) else f) = fun f => decide (f.1 = q) := by
      funext f
      dsimp only [Function.comp]
      split
      · next heq => rw [heq]
      · rfl
    rw [hkey]
    cases hf : s.files.find? (·.1 = q) with
    | none => rfl
    | some f =>
      have hq := List.find?_some hf
      have hne : f.1 ≠ place := by
        rw [of_decide_eq_true hq]
        exact h
      simp [hne]
  · unfold content?
    dsimp only
    rw [List.find?_append]
    have hne : ¬ place = q := fun heq => h heq.symm
    simp [hne]

theorem isDirectory_above {p : Place} (hq : q <+: p) (h : s.isDirectory p = true)
    : s.isDirectory q = true := by
  unfold isDirectory at h ⊢
  simp only [Bool.or_eq_true, List.any_eq_true, Bool.and_eq_true, List.isPrefixOf_iff_prefix,
    decide_eq_true_eq] at h ⊢
  rcases h with (h | ⟨f, hf, hp, hne⟩) | ⟨d, hd, hp⟩
  · exact .inl (.inl (hq.trans h))
  · refine .inl (.inr ⟨f, hf, hq.trans hp, ?_⟩)
    rintro rfl
    exact hne (hp.eq_of_length_le hq.length_le)
  · exact .inr ⟨d, hd, hq.trans hp⟩

theorem isDirectory_put (h : (s.content? place).isSome ∨ s.isDirectory place.dropLast = true)
    : (s.put place content).isDirectory q = s.isDirectory q := by
  -- what lies above the new file lies above its directory, or is that directory
  unfold put
  split
  · unfold isDirectory
    dsimp only
    rw [List.any_map]
    congr 3
    funext f
    dsimp only [Function.comp]
    split
    · next heq => rw [heq]
    · rfl
  · next hnone =>
    have hparent := h.resolve_left hnone
    cases hq : q.isPrefixOf place && decide (q ≠ place) with
    | false =>
      unfold isDirectory
      dsimp only
      rw [List.any_append, List.any_cons, List.any_nil]
      dsimp only
      rw [hq, Bool.or_false, Bool.or_false]
    | true =>
      rw [Bool.and_eq_true, List.isPrefixOf_iff_prefix, decide_eq_true_eq] at hq
      have habove : q <+: place.dropLast := by
        obtain ⟨l, hl⟩ := hq.1
        cases l using List.reverseRecOn with
        | nil => exact absurd (by simpa using hl) hq.2
        | append_singleton l x =>
          rw [← hl, ← List.append_assoc, List.dropLast_concat]
          exact List.prefix_append q l
      rw [isDirectory_above habove hparent]
      unfold isDirectory
      simp [hq.1, hq.2]

def placeFrom (dir : Place) : List String → Place
  | [] => dir
  | "" :: rest => placeFrom dir rest
  | "." :: rest => placeFrom dir rest
  | ".." :: rest => placeFrom dir.dropLast rest
  | name :: rest => placeFrom (dir ++ [name]) rest

theorem placeFrom_cons {name : String} (rest : List String) (hempty : name ≠ "") (hdot : name ≠ ".")
    (hdots : name ≠ "..")
    : placeFrom dir (name :: rest) = placeFrom (dir ++ [name]) rest := by
  rw [placeFrom]
  · exact hempty
  · exact hdot
  · exact hdots

theorem follow_cons {name : String} (rest : List String) (hempty : name ≠ "") (hdot : name ≠ ".")
    (hdots : name ≠ "..")
    : s.follow dir (name :: rest)
      = if maxNameLength < name.utf8ByteSize then .error .nameTooLong
        else match s.content? (dir ++ [name]) with
          | some content =>
            if rest.isEmpty then .ok (.file (dir ++ [name]) content) else .error .notADirectory
          | none =>
            if s.isDirectory (dir ++ [name]) then s.follow (dir ++ [name]) rest
            else if rest.isEmpty then .ok (.vacant (dir ++ [name]))
            else if rest.all (· = "") then .error .isADirectory
            else .error .notFound := by
  exact follow.eq_5 s dir name rest hempty hdot hdots

def Target.At (s : FileStore) (place : Place) : Target → Prop
  | .file p content => p = place ∧ s.content? place = some content
  | .vacant p =>
    p = place ∧ s.content? place = none ∧ s.isDirectory place = false
      ∧ s.isDirectory place.dropLast = true
  | .directory _ => True

theorem follow_at {names : List String} {t : Target} (hdir : s.isDirectory dir = true)
    (h : s.follow dir names = .ok t)
    : t.At s (placeFrom dir names) := by
  fun_induction follow s dir names with
  | case1 dir =>
    cases h
    trivial
  | case2 dir rest ih => exact ih hdir h
  | case3 dir rest ih => exact ih hdir h
  | case4 dir rest ih => exact ih (isDirectory_above (List.dropLast_prefix dir) hdir) h
  | case5 => contradiction
  | case6 dir name rest hempty hdot hdots p hshort content hcontent hrest =>
    cases h
    rw [placeFrom_cons rest hempty hdot hdots]
    rw [List.isEmpty_iff.1 hrest]
    exact ⟨rfl, hcontent⟩
  | case7 => contradiction
  | case8 dir name rest hempty hdot hdots p hshort hcontent hp ih =>
    rw [placeFrom_cons rest hempty hdot hdots]
    exact ih hp h
  | case9 dir name rest hempty hdot hdots p hshort hcontent hp hrest =>
    cases h
    rw [placeFrom_cons rest hempty hdot hdots]
    rw [List.isEmpty_iff.1 hrest]
    refine ⟨rfl, hcontent, Bool.eq_false_iff.2 hp, ?_⟩
    unfold placeFrom
    rw [List.dropLast_concat]
    exact hdir
  | case10 => contradiction
  | case11 => contradiction

theorem follow_put_self {names : List String} {t : Target} (hdir : s.isDirectory dir = true)
    (h : s.follow dir names = .ok t) (hplace : place = placeFrom dir names)
    (ht : ∀ d, t ≠ .directory d)
    : (s.put place content).follow dir names = .ok (.file place content) := by
  have hat := follow_at hdir h
  rw [← hplace] at hat
  have hsame : ∀ q, (s.put place content).isDirectory q = s.isDirectory q := by
    intro q
    apply isDirectory_put
    cases t with
    | file p c =>
      rw [hat.2]
      exact .inl rfl
    | vacant p => exact .inr hat.2.2.2
    | directory d => exact absurd rfl (ht d)
  have hother : ∀ q, s.content? q = none → s.isDirectory q = true →
      (s.put place content).content? q = none := by
    intro q hq hqdir
    rw [content?_put_of_ne]
    · exact hq
    · rintro rfl
      cases t with
      | file p c =>
        rw [hat.2] at hq
        contradiction
      | vacant p =>
        rw [hat.2.2.1] at hqdir
        contradiction
      | directory d => exact ht d rfl
  clear hat
  -- on the way nothing is found where there were directories, and at the end there is the file
  fun_induction follow s dir names with
  | case1 dir =>
    cases h
    exact absurd rfl (ht dir)
  | case2 dir rest ih => exact ih hdir h hplace
  | case3 dir rest ih => exact ih hdir h hplace
  | case4 dir rest ih =>
    exact ih (isDirectory_above (List.dropLast_prefix dir) hdir) h hplace
  | case5 => contradiction
  | case6 dir name rest hempty hdot hdots p hshort c hcontent hrest =>
    rw [placeFrom_cons rest hempty hdot hdots] at hplace
    rw [List.isEmpty_iff.1 hrest] at hplace ⊢
    unfold placeFrom at hplace
    rw [follow_cons _ hempty hdot hdots, if_neg hshort]
    rw [← hplace, content?_put_self]
    rfl
  | case7 => contradiction
  | case8 dir name rest hempty hdot hdots p hshort hcontent hp ih =>
    rw [placeFrom_cons rest hempty hdot hdots] at hplace
    rw [follow_cons _ hempty hdot hdots, if_neg hshort]
    have hnone := hother _ hcontent hp
    rw [hnone]
    dsimp only
    rw [hsame, if_pos hp]
    exact ih hp h hplace
  | case9 dir name rest hempty hdot hdots p hshort hcontent hp hrest =>
    rw [placeFrom_cons rest hempty hdot hdots] at hplace
    rw [List.isEmpty_iff.1 hrest] at hplace ⊢
    unfold placeFrom at hplace
    rw [follow_cons _ hempty hdot hdots, if_neg hshort]
    rw [← hplace, content?_put_self]
    rfl
  | case10 => contradiction
  | case11 => contradiction

def Target.content? : Target → Option ByteArray
  | .file _ content => some content
  | _ => none

theorem follow_put_of_ne {names : List String} (hne : place ≠ placeFrom dir names)
    (hfree : (s.content? place).isSome ∨ s.isDirectory place = false)
    (hsame : ∀ q, (s.put place content).isDirectory q = s.isDirectory q)
    : ((s.put place content).follow dir names).toOption.bind Target.content?
      = (s.follow dir names).toOption.bind Target.content? := by
  -- parts that lead through the place and on lead nowhere, whether there is a file or not
  have hthrough : ∀ dir name rest, name ≠ "" → name ≠ "." → name ≠ ".." → rest.isEmpty = false →
      dir ++ [name] = place →
      ((s.put place content).follow dir (name :: rest)).toOption.bind Target.content? = none := by
    intro dir name rest hempty hdot hdots hrest hp
    rw [follow_cons _ hempty hdot hdots, hp, content?_put_self]
    dsimp only
    rw [hrest]
    split
    · rfl
    · rfl
  fun_induction follow s dir names with
  | case1 => rfl
  | case2 dir rest ih => exact ih hne
  | case3 dir rest ih => exact ih hne
  | case4 dir rest ih => exact ih hne
  | case5 dir name rest hempty hdot hdots hlong =>
    rw [follow_cons _ hempty hdot hdots, if_pos hlong]
  | case6 dir name rest hempty hdot hdots p hshort c hcontent hrest =>
    rw [placeFrom_cons rest hempty hdot hdots, List.isEmpty_iff.1 hrest] at hne
    unfold placeFrom at hne
    rw [follow_cons _ hempty hdot hdots, if_neg hshort]
    rw [content?_put_of_ne hne.symm, hcontent]
    dsimp only
    rw [if_pos hrest]
  | case7 dir name rest hempty hdot hdots p hshort c hcontent hrest =>
    by_cases hp : p = place
    · exact hthrough dir name rest hempty hdot hdots (Bool.eq_false_iff.2 hrest) hp
    · rw [follow_cons _ hempty hdot hdots, if_neg hshort]
      rw [content?_put_of_ne hp, hcontent]
      dsimp only
      rw [if_neg hrest]
  | case8 dir name rest hempty hdot hdots p hshort hcontent hdir ih =>
    have hp : p ≠ place := by
      rintro rfl
      rw [hcontent, hdir] at hfree
      simp at hfree
    rw [placeFrom_cons rest hempty hdot hdots] at hne
    rw [follow_cons _ hempty hdot hdots, if_neg hshort]
    rw [content?_put_of_ne hp, hcontent]
    dsimp only
    rw [hsame, if_pos hdir]
    exact ih hne
  | case9 dir name rest hempty hdot hdots p hshort hcontent hdir hrest =>
    rw [placeFrom_cons rest hempty hdot hdots, List.isEmpty_iff.1 hrest] at hne
    unfold placeFrom at hne
    rw [follow_cons _ hempty hdot hdots, if_neg hshort]
    rw [content?_put_of_ne hne.symm, hcontent]
    dsimp only
    rw [hsame, if_neg hdir, if_pos hrest]
  | case10 dir name rest hempty hdot hdots p hshort hcontent hdir hrest hall =>
    by_cases hp : p = place
    · exact hthrough dir name rest hempty hdot hdots (Bool.eq_false_iff.2 hrest) hp
    · rw [follow_cons _ hempty hdot hdots, if_neg hshort]
      rw [content?_put_of_ne hp, hcontent]
      dsimp only
      rw [hsame, if_neg hdir, if_neg hrest, if_pos hall]
  | case11 dir name rest hempty hdot hdots p hshort hcontent hdir hrest hall =>
    by_cases hp : p = place
    · exact hthrough dir name rest hempty hdot hdots (Bool.eq_false_iff.2 hrest) hp
    · rw [follow_cons _ hempty hdot hdots, if_neg hshort]
      rw [content?_put_of_ne hp, hcontent]
      dsimp only
      rw [hsame, if_neg hdir, if_neg hrest, if_neg hall]

def root (p : Path) : Place :=
  if p.isAbsolute then [] else workingDirectory

def placeOf (p : Path) : Place :=
  placeFrom (root p) (parts p)

theorem isDirectory_root (s : FileStore) (p : Path) : s.isDirectory (root p) = true := by
  unfold isDirectory root
  split
  · rfl
  · have hwork : workingDirectory.isPrefixOf workingDirectory = true := by decide
    rw [hwork]
    rfl

theorem resolve_ok {p : Path} {t : Target} (h : s.resolve p = .ok t)
    : s.follow (root p) (parts p) = .ok t
      ∧ ∀ s' : FileStore, s'.resolve p = s'.follow (root p) (parts p) := by
  unfold resolve at h ⊢
  split at h
  · contradiction
  · next hnul =>
    split at h
    · contradiction
    · next hempty =>
      split at h
      · contradiction
      · next hlong =>
        refine ⟨h, fun s' => ?_⟩
        rw [if_neg hnul, if_neg hempty, if_neg hlong]
        rfl

theorem toOption_read (s : FileStore) (p : Path)
    : (s.read p).toOption = (s.resolve p).toOption.bind Target.content? := by
  unfold read
  cases s.resolve p with
  | ok t => cases t <;> rfl
  | error e => cases e <;> rfl

theorem write_eq {s' : FileStore} {p : Path} (h : s.write p content = .ok s')
    : ∃ t, s.resolve p = .ok t ∧ t.At s (placeOf p) ∧ (∀ d, t ≠ .directory d)
        ∧ s' = s.put (placeOf p) content := by
  unfold write at h
  cases hr : s.resolve p with
  | error e =>
    rw [hr] at h
    contradiction
  | ok t =>
    have hat : t.At s (placeOf p) := follow_at (isDirectory_root s p) (resolve_ok hr).1
    rw [hr] at h
    refine ⟨t, rfl, hat, ?_, ?_⟩
    · rintro d rfl
      contradiction
    · cases t with
      | file q c =>
        rw [← hat.1]
        cases h
        rfl
      | vacant q =>
        rw [← hat.1]
        cases h
        rfl
      | directory d => contradiction

theorem read_write {s' : FileStore} {p : Path} (h : s.write p content = .ok s')
    : (s'.read p).toOption = some content := by
  obtain ⟨t, hresolve, hat, hfile, rfl⟩ := write_eq h
  obtain ⟨hfollow, hresolve'⟩ := resolve_ok hresolve
  have hput : (s.put (placeOf p) content).follow (root p) (parts p)
      = .ok (.file (placeOf p) content) :=
    follow_put_self (isDirectory_root s p) hfollow rfl hfile
  rw [toOption_read]
  rw [hresolve']
  rw [hput]
  rfl

theorem readText_ok {p : Path} {t : String} (h : s.readText p = .ok t)
    : (s.read p).toOption = some t.toUTF8 := by
  unfold readText at h
  cases hr : s.read p with
  | error e =>
    rw [hr] at h
    contradiction
  | ok bytes =>
    rw [hr] at h
    simp only [bind, Except.bind] at h
    cases htext : String.fromUTF8? bytes with
    | none =>
      rw [htext] at h
      contradiction
    | some text =>
      rw [htext] at h
      cases h
      unfold String.fromUTF8? at htext
      split at htext
      · cases htext
        rfl
      · contradiction

theorem read_write_of_ne {s' : FileStore} {p p' : Path} (hp : placeOf p ≠ placeOf p')
    (h : s.write p content = .ok s')
    : (s'.read p').toOption = (s.read p').toOption := by
  obtain ⟨t, -, hat, hfile, rfl⟩ := write_eq h
  have hfree : (s.content? (placeOf p)).isSome
      ∨ s.isDirectory (placeOf p) = false ∧ s.isDirectory (placeOf p).dropLast = true := by
    cases t with
    | file q c =>
      rw [hat.2]
      exact .inl rfl
    | vacant q => exact .inr hat.2.2
    | directory d => exact absurd rfl (hfile d)
  have hsame (q : Place) : (s.put (placeOf p) content).isDirectory q = s.isDirectory q :=
    isDirectory_put (hfree.imp_right And.right)
  rw [toOption_read, toOption_read]
  unfold resolve
  split
  · rfl
  · split
    · rfl
    · split
      · rfl
      · exact follow_put_of_ne hp (hfree.imp_right And.left) hsame

theorem run_write (s : FileStore) (p : Path) (content : ByteArray)
    : (FileSystem.write p content).run s = match s.write p content with
      | .ok s => (.ok (), s)
      | .error e => (.error e.message, s) := rfl

theorem write_run {p : Path} {s' : FileStore}
    (h : ((FileSystem.write p content).run s).1 = .ok ()) (hs' : ((FileSystem.write p content).run s).2 = s')
    : s.write p content = .ok s' := by
  rw [run_write] at h hs'
  cases hw : s.write p content with
  | ok t =>
    rw [hw] at hs'
    rw [← hs']
  | error e =>
    rw [hw] at h
    contradiction

theorem lawful
    : FileSystem.Lawful (fun (s : FileStore) p => (s.read p).toOption)
        fun p q => placeOf p ≠ placeOf q where
  readText_content p s := rfl
  readText_ok p s t h := by
    have hrun : ((FileSystem.readText p).run s).1 = (s.readText p).mapError FileError.message := rfl
    rw [hrun] at h
    cases hr : s.readText p with
    | ok text =>
      rw [hr] at h
      cases h
      exact readText_ok hr
    | error e =>
      rw [hr] at h
      contradiction
  write_ok p bytes s h := read_write (write_run h rfl)
  write_apart p q bytes s hpq h := read_write_of_ne hpq (write_run h rfl)
  write_error p bytes s e h := by
    rw [run_write] at h ⊢
    cases hw : s.write p bytes with
    | ok t =>
      rw [hw] at h
      contradiction
    | error e => rfl

end FileStore
end Workbench
