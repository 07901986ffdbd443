import Workbench.Bridge.Host
import Workbench.Proofs.Files.Path
import Workbench.Proofs.Language.Registry

/-!
The extension that a file gets when it is saved under a name without one.
-/

namespace Workbench

open Language.Builtin (defaultExtension)

variable {p : Path} {file : String}

theorem withDefaultExtension_of_extension {ext : String} (h : p.extension? = some ext) (hne : ext ≠ "")
    : withDefaultExtension p = p := by
  unfold withDefaultExtension
  rw [h]
  rw [if_pos (by simpa using hne)]

theorem withDefaultExtension_of_fileName?_eq_none (h : p.fileName? = none) : withDefaultExtension p = p := by
  have hsplit : p.split? = none := by
    unfold Path.fileName? at h
    rwa [Option.map_eq_none_iff] at h
  unfold withDefaultExtension Path.withExtension
  rw [hsplit]
  exact ite_self p

theorem withDefaultExtension_of_bare (h : ∀ ext ∈ p.extension?, ext = "")
    : withDefaultExtension p = p.withExtension defaultExtension := by
  have hnone : p.extension?.any (· ≠ "") = false := by
    cases hext : p.extension? with
    | none => rfl
    | some ext =>
      rw [Option.any_some]
      simpa using h ext hext
  unfold withDefaultExtension
  rw [hnone]
  exact if_neg Bool.false_ne_true

theorem defaultExtension_spec (h : p.fileName?.isSome)
    : (p.withExtension defaultExtension).parent? = p.parent?
        ∧ (p.withExtension defaultExtension).fileName? = p.stem?.map (· ++ "." ++ defaultExtension)
        ∧ (p.withExtension defaultExtension).extension? = some defaultExtension :=
  Path.withExtension_spec h (by decide) (by decide) (by decide)

theorem withDefaultExtension_idem (p : Path)
    : withDefaultExtension (withDefaultExtension p) = withDefaultExtension p := by
  by_cases hbare : ∀ ext ∈ p.extension?, ext = ""
  · by_cases hname : p.fileName?.isSome
    · obtain ⟨-, -, hext⟩ := defaultExtension_spec hname
      rw [withDefaultExtension_of_bare hbare]
      exact withDefaultExtension_of_extension hext (by decide)
    · rw [Option.not_isSome_iff_eq_none] at hname
      rw [withDefaultExtension_of_fileName?_eq_none hname]
      exact withDefaultExtension_of_fileName?_eq_none hname
  · push Not at hbare
    obtain ⟨ext, hext, hne⟩ := hbare
    rw [withDefaultExtension_of_extension hext hne]
    exact withDefaultExtension_of_extension hext hne

theorem Registry.languageForPath?_register {r r' : Registry} (h : Language.Builtin.register r = .ok r')
    (hext : p.extension? = some defaultExtension)
    : r'.languageForPath? p = some Language.Builtin.id
        ↔ ∀ l ∈ r.languages, l.id ≠ Language.Builtin.id → defaultExtension ∉ l.extensions := by
  have hlower : Unicode.lower defaultExtension = defaultExtension :=
    (List.cons.inj Language.Builtin.lower_extensions).1
  rw [Language.Builtin.register_eq] at h
  obtain rfl := Except.ok.inj h
  unfold Registry.languageForPath?
  rw [hext]
  rw [Option.bind_some]
  rw [hlower]
  rw [List.find?_append]
  cases hfound : (r.languages.filter (·.id ≠ Language.Builtin.id)).find?
      (·.extensions.contains defaultExtension) with
  | none =>
    refine iff_of_true rfl ?_
    intro l hl hne hclaims
    have hnot := List.find?_eq_none.1 hfound l (by simp [hl, hne])
    simp [hclaims] at hnot
  | some l =>
    have hmem := List.mem_of_find?_eq_some hfound
    have hclaims := List.find?_some hfound
    simp only [List.mem_filter, decide_eq_true_eq] at hmem
    refine iff_of_false ?_ ?_
    · rw [Option.some_or, Option.map_some, Option.some.injEq]
      exact hmem.2
    · intro h
      exact h l hmem.1 hmem.2 (List.contains_iff_mem.1 hclaims)

structure Extended (p q : Path) : Prop where
  /-- A path with an extension that is not empty stays as it is, and so does one that does not end in a name. -/
  kept : (∃ ext, p.extension? = some ext ∧ ext ≠ "") ∨ p.fileName? = none → q = p
  nameless : p.fileName? = none
    ↔ p.components.getLast? = none ∨ p.components.getLast? = some .root ∨ p.components.getLast? = some .here
      ∨ p.components.getLast? = some .up
  /-- Any other one gets the extension. The dot at the end of its name, if any, is not part of the stem. -/
  named : ∀ file, p.fileName? = some file → (∀ ext, p.extension? = some ext → ext = "") →
    ∃ stem, p.stem? = some stem ∧ (file = stem ∨ file = stem ++ ".")
      ∧ q.parent? = p.parent? ∧ q.fileName? = some (stem ++ ".oc") ∧ q.extension? = some "oc"
      ∧ ∀ r r', Language.Builtin.register r = .ok r' →
        (r'.languageForPath? q = some Language.Builtin.id
          ↔ ∀ l ∈ r.languages, l.id ≠ Language.Builtin.id → "oc" ∉ l.extensions)
  idem : withDefaultExtension q = q

theorem withDefaultExtension_spec (p : Path) : Extended p (withDefaultExtension p) where
  kept h := by
    rcases h with ⟨ext, hext, hne⟩ | hnone
    · exact withDefaultExtension_of_extension hext hne
    · exact withDefaultExtension_of_fileName?_eq_none hnone
  nameless := by
    rw [Option.eq_none_iff_forall_ne_some]
    simp only [ne_eq, Path.fileName?_eq_some_iff]
    cases p.components.getLast? with
    | none => simp
    | some part =>
      cases part with
      | name text =>
        refine iff_of_false (fun h => h (String.ofList text) ?_) (by simp)
        rw [String.toList_ofList]
      | root => simp
      | here => simp
      | up => simp
  named file hfile hext := by
    have hname : p.fileName?.isSome := Option.isSome_of_eq_some hfile
    obtain ⟨hparent, hfile', hext'⟩ := defaultExtension_spec hname
    have hstem : ∃ stem, p.stem? = some stem ∧ (file = stem ∨ file = stem ++ ".") := by
      rcases Path.fileName?_cases hfile with ⟨hstem, -, -⟩ | ⟨stem, ext, hstem, hsome, hcut, -, -⟩
      · exact ⟨file, hstem, .inl rfl⟩
      · rw [hext ext hsome, String.append_empty] at hcut
        exact ⟨stem, hstem, .inr hcut⟩
    obtain ⟨stem, hstem, hcut⟩ := hstem
    rw [hstem] at hfile'
    rw [withDefaultExtension_of_bare hext]
    refine ⟨stem, hstem, hcut, hparent, ?_, hext', fun r r' hr => Registry.languageForPath?_register hr hext'⟩
    rw [hfile', Option.map_some, String.append_assoc]
    rfl
  idem := withDefaultExtension_idem p

example : withDefaultExtension "src/main.//." = "src/main.oc" := by
  decide

end Workbench
