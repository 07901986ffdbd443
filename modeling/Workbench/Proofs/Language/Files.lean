import Workbench.Picker.Filter
import Workbench.Proofs.Language.Registry
import Workbench.Proofs.Unicode.LowerAscii

/-!
Which language a file belongs to, and which files a picker counts to it. Pickers compare extensions in ASCII, and
registries in every script; the two agree on the extensions of the language, since none of them has a `k`.
-/

namespace Workbench

section Alike

variable {extensions : List String}

theorem any_lowerAscii_eq (hplain : ∀ e ∈ extensions, Unicode.IsPlain (Unicode.lowerAscii e).toList) (ext : String)
    : extensions.any (Unicode.lowerAscii · == Unicode.lowerAscii ext)
        = (extensions.map Unicode.lower).contains (Unicode.lower ext) := by
  rw [Bool.eq_iff_iff]
  rw [List.any_eq_true, List.contains_iff_mem, List.mem_map]
  refine exists_congr fun e => and_congr_right fun he => ?_
  rw [beq_iff_eq]
  exact (Unicode.lower_eq_lower_iff (hplain e he)).symm

theorem languageForPath?_eq_matches? {l : Language} (hextensions : l.extensions = extensions.map Unicode.lower)
    (hplain : ∀ e ∈ extensions, Unicode.IsPlain (Unicode.lowerAscii e).toList) (hstar : "*" ∉ extensions)
    (name : String) (p : Path)
    : Registry.languageForPath? ⟨[l]⟩ p
        = if FileFilter.matches? ⟨name, extensions⟩ p then some l.id else none := by
  have hcontains : extensions.contains "*" = false := by
    simpa using hstar
  unfold Registry.languageForPath? FileFilter.matches?
  cases p.extension? with
  | none =>
    rw [hcontains]
    rfl
  | some ext =>
    rw [hcontains]
    rw [Bool.false_or, Option.any_some]
    rw [any_lowerAscii_eq hplain]
    rw [← hextensions]
    rw [Option.bind_some]
    rw [List.find?_singleton]
    split
    · rfl
    · rfl

example
    : FileFilter.matches? ⟨"Make", ["mk"]⟩ "a.m\u212a" = false
        ∧ Registry.languageForPath? ⟨[{ id := "make", extensions := ["mk"] }]⟩ "a.m\u212a" = some "make" := by
  decide +kernel

end Alike

theorem Language.Builtin.forOpen_picks_files
    : ∃ f rest r, FileFilter.forOpen = f :: rest ∧ register {} = .ok r
        ∧ ∀ p : Path, (f.matches? p = true ↔ r.languageForPath? p = some id)
          ∧ (f.matches? p = false ↔ r.languageForPath? p = none) := by
  have hplain : ∀ e ∈ extensions, Unicode.IsPlain (Unicode.lowerAscii e).toList := by
    decide +kernel
  refine ⟨_, _, _, rfl, register_eq {}, fun p => ?_⟩
  have hfiles : Registry.languageForPath? ⟨[language]⟩ p
      = if FileFilter.matches? ⟨"OpenCode Files", extensions⟩ p then some id else none :=
    languageForPath?_eq_matches? lower_extensions.symm hplain (by decide) _ p
  change (_ ↔ Registry.languageForPath? ⟨[language]⟩ p = _) ∧ (_ ↔ Registry.languageForPath? ⟨[language]⟩ p = _)
  rw [hfiles]
  cases FileFilter.matches? ⟨"OpenCode Files", extensions⟩ p with
  | false => simp
  | true => simp

end Workbench
