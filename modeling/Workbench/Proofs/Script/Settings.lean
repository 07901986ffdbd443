import Mathlib.Data.List.Induction
import Workbench.Script.Load

/-!
What scripts do to the settings. A run changes them by its accepted calls and by nothing else, and what a call has set
stays when the script fails later on. So a script that fails leaves the settings as they were exactly if every one of
them was set back, or never set.
-/

namespace Workbench

namespace Settings

inductive Field where
  | theme
  | showLineNumbers
  | showFunctions
  | tabWidth
  | serviceUrl
  | runTimeout
  | logLevel
deriving DecidableEq

def Field.Same (f : Field) (s s' : Settings) : Prop :=
  match f with
  | theme => s'.theme = s.theme
  | showLineNumbers => s'.showLineNumbers = s.showLineNumbers
  | showFunctions => s'.showFunctions = s.showFunctions
  | tabWidth => s'.tabWidth = s.tabWidth
  | serviceUrl => s'.serviceUrl = s.serviceUrl
  | runTimeout => s'.runTimeout? = s.runTimeout?
  | logLevel => s'.logLevel = s.logLevel

variable {f : Field} {s s' s'' : Settings}

theorem Field.Same.refl : f.Same s s := by
  cases f <;> rfl

theorem Field.Same.symm (h : f.Same s s') : f.Same s' s := by
  cases f with
  | theme | showLineNumbers | showFunctions | tabWidth | serviceUrl | runTimeout | logLevel => exact Eq.symm h

theorem Field.Same.trans (h : f.Same s s') (h' : f.Same s' s'') : f.Same s s'' := by
  cases f with
  | theme | showLineNumbers | showFunctions | tabWidth | serviceUrl | runTimeout | logLevel =>
    exact Eq.trans h' h

theorem eq_of_same (h : ∀ f : Field, f.Same s s') : s' = s := by
  cases s
  cases s'
  congr
  · exact h .theme
  · exact h .showLineNumbers
  · exact h .showFunctions
  · exact h .tabWidth
  · exact h .serviceUrl
  · exact h .runTimeout
  · exact h .logLevel

def SameBesides (f? : Option Field) (s s' : Settings) : Prop :=
  ∀ f : Field, f? ≠ some f → f.Same s s'

end Settings

namespace SettingsCall

open Settings (Field SameBesides)

def field? : SettingsCall → Option Field
  | setTheme _ => some .theme
  | setServiceUrl _ => some .serviceUrl
  | setRunTimeout _ => some .runTimeout
  | setTabWidth _ => some .tabWidth
  | setShowLineNumbers _ => some .showLineNumbers
  | setShowFunctions _ => some .showFunctions
  | setLogLevel _ => some .logLevel
  | getTheme | listThemes | getServiceUrl => none

def Accepted (c : SettingsCall) : Prop :=
  ∀ s, (c.run s).1.isOk = true

def apply (s : Settings) (c : SettingsCall) : Settings :=
  (c.run s).2

def last? (f : Field) (calls : List SettingsCall) : Option SettingsCall :=
  calls.reverse.find? (·.field? = some f)

variable {c : SettingsCall} {s s' : Settings} {f : Field}

theorem accepted_or_refused (c : SettingsCall)
    : c.Accepted ∨ ∀ s, (c.run s).1.isOk = false ∧ (c.run s).2 = s := by
  cases c with
  | getTheme | listThemes | getServiceUrl => exact .inl fun s => rfl
  | setRunTimeout seconds | setTabWidth width | setShowLineNumbers enabled | setShowFunctions enabled =>
    exact .inl fun s => rfl
  | setTheme name =>
    by_cases hunknown : (Theme.find? name).isNone
    · refine .inr fun s => ?_
      simp only [run, if_pos hunknown]
      exact ⟨rfl, trivial⟩
    · refine .inl fun s => ?_
      simp only [run, if_neg hunknown]
      rfl
  | setServiceUrl url =>
    by_cases hblank : (Text.dropTrailingSlashes (Text.trimString url)).isEmpty
    · refine .inr fun s => ?_
      simp only [run, if_pos hblank]
      exact ⟨rfl, trivial⟩
    · refine .inl fun s => ?_
      simp only [run, if_neg hblank]
      rfl
  | setLogLevel name =>
    cases hlevel : LogLevel.parse? name with
    | none =>
      refine .inr fun s => ?_
      simp only [run, hlevel]
      exact ⟨rfl, trivial⟩
    | some level =>
      refine .inl fun s => ?_
      simp only [run, hlevel]
      rfl

theorem accepted_of_isOk (h : (c.run s).1.isOk = true) : c.Accepted := by
  cases c.accepted_or_refused with
  | inl haccepted => exact haccepted
  | inr hrefused =>
    rw [(hrefused s).1] at h
    contradiction

theorem run_of_refused (h : (c.run s).1.isOk = false) : (c.run s).2 = s := by
  cases c.accepted_or_refused with
  | inl haccepted =>
    rw [haccepted s] at h
    contradiction
  | inr hrefused => exact (hrefused s).2

theorem sameBesides_run (c : SettingsCall) (s : Settings) : SameBesides c.field? s (c.run s).2 := by
  intro f hf
  cases c with
  | getTheme | listThemes | getServiceUrl => exact .refl
  | setTheme name =>
    simp only [run]
    split
    next => exact .refl
    next =>
      cases f with
      | theme => exact absurd rfl hf
      | _ => rfl
  | setServiceUrl url =>
    simp only [run]
    split
    next => exact .refl
    next =>
      cases f with
      | serviceUrl => exact absurd rfl hf
      | _ => rfl
  | setRunTimeout seconds =>
    cases f with
    | runTimeout => exact absurd rfl hf
    | _ => rfl
  | setTabWidth width =>
    cases f with
    | tabWidth => exact absurd rfl hf
    | _ => rfl
  | setShowLineNumbers enabled =>
    cases f with
    | showLineNumbers => exact absurd rfl hf
    | _ => rfl
  | setShowFunctions enabled =>
    cases f with
    | showFunctions => exact absurd rfl hf
    | _ => rfl
  | setLogLevel name =>
    simp only [run]
    split
    next => exact .refl
    next =>
      cases f with
      | logLevel => exact absurd rfl hf
      | _ => rfl

theorem run_eq_self_iff (hf : c.field? = some f) : (c.run s).2 = s ↔ f.Same s (c.run s).2 := by
  constructor
  · intro h
    rw [h]
    exact .refl
  · intro h
    apply Settings.eq_of_same
    intro g
    by_cases hg : c.field? = some g
    · obtain rfl : f = g := Option.some.inj (hf.symm.trans hg)
      exact h
    · exact c.sameBesides_run s g hg

theorem same_of_accepted (hc : c.Accepted) (hf : c.field? = some f) (s s' : Settings)
    : f.Same (c.run s).2 (c.run s').2 := by
  have hs := hc s
  cases c with
  | getTheme | listThemes | getServiceUrl => cases hf
  | setRunTimeout seconds | setTabWidth width | setShowLineNumbers enabled | setShowFunctions enabled =>
    cases hf
    rfl
  | setTheme name | setServiceUrl url =>
    cases hf
    simp only [run] at hs ⊢
    split at hs
    next => cases hs
    next haccepted =>
      rw [if_neg haccepted, if_neg haccepted]
      rfl
  | setLogLevel name =>
    cases hf
    simp only [run] at hs ⊢
    split at hs
    next => cases hs
    next level hlevel => rfl

theorem same_foldl_apply (f : Field) (s : Settings) (calls : List SettingsCall) (h : ∀ c ∈ calls, c.Accepted)
    : f.Same ((last? f calls).elim s (apply s)) (calls.foldl apply s) := by
  induction calls using List.reverseRecOn with
  | nil => exact .refl
  | append_singleton calls c ih =>
    have hcalls := ih fun c' hc' => h c' (List.mem_append_left _ hc')
    have hc : c.Accepted := h c (List.mem_append_right _ List.mem_cons_self)
    unfold last? at hcalls ⊢
    rw [List.foldl_append, List.reverse_append, List.reverse_singleton, List.singleton_append, List.find?_cons]
    by_cases hf : c.field? = some f
    · rw [decide_eq_true hf]
      exact c.same_of_accepted hc hf _ _
    · rw [decide_eq_false hf]
      exact hcalls.trans (c.sameBesides_run _ f hf)

end SettingsCall

namespace Script

variable {α : Type}

/-- The accepted calls of a run, in their order. -/
def Effects.accepted : Effects α → Settings → List SettingsCall
  | done _, _ => []
  | call c next, s =>
    let rest := (next (c.run s).1).accepted (c.run s).2
    if (c.run s).1.isOk then c :: rest else rest
  | report _ next, s => next.accepted s

theorem Effects.accepted_of_mem (effects : Effects α) {s : Settings} {c : SettingsCall}
    (h : c ∈ effects.accepted s) : c.Accepted := by
  induction effects generalizing s with
  | done a => cases h
  | call c' next ih =>
    simp only [accepted] at h
    split at h
    next haccepted =>
      cases h with
      | head => exact SettingsCall.accepted_of_isOk haccepted
      | tail _ hrest => exact ih _ hrest
    next => exact ih _ h
  | report e next ih => exact ih h

theorem Effects.settings_run (effects : Effects α) (s : Settings)
    : (effects.run s).settings = (effects.accepted s).foldl SettingsCall.apply s := by
  induction effects generalizing s with
  | done a => rfl
  | call c next ih =>
    have hrun : ((call c next).run s).settings = ((next (c.run s).1).run (c.run s).2).settings := rfl
    rw [hrun, ih]
    simp only [accepted]
    split
    next => rfl
    next hrefused => rw [SettingsCall.run_of_refused (Bool.not_eq_true _ ▸ hrefused)]
  | report e next ih => exact ih s

end Script

def ScriptSource.text? : ScriptSource → Option String
  | text script => some script
  | file store path => (store.readText path).toOption
  | user store home =>
    let path := Settings.scriptPath home
    if !home.isEmpty && store.pathExists path then (store.readText path).toOption else none

namespace Script.Engine

variable (engine : Engine)

def accepted (s : Settings) (source : ScriptSource) : List SettingsCall :=
  match source.text?.bind engine.effects? with
  | none => []
  | some effects => effects.accepted s

inductive Loads (source : ScriptSource) (s : Settings) (report : ScriptReport) : Prop where
  | unrun (hnone : source.text?.bind engine.effects? = none) (hsettings : report.settings = s)
  | run (effects : Effects (Except String Unit)) (hsome : source.text?.bind engine.effects? = some effects)
      (hresult : report.result = (effects.run s).value.mapError .eval)
      (hsettings : report.settings = (effects.run s).settings)

variable {source : ScriptSource}

theorem loads_runScript {script : String} (h : source.text? = some script) (s : Settings)
    : engine.Loads source s (engine.runScript s script) := by
  have hbind : source.text?.bind engine.effects? = engine.effects? script := by rw [h, Option.bind_some]
  unfold runScript
  split
  next hnone => exact .unrun (hbind.trans hnone) rfl
  next effects hsome => exact .run effects (hbind.trans hsome) rfl rfl

theorem loads_loadScript {store : FileStore} {path : Path} (h : source.text? = (store.readText path).toOption)
    (s : Settings)
    : engine.Loads source s (engine.loadScript s store path) := by
  unfold loadScript
  split
  next e he =>
    rw [he] at h
    refine .unrun ?_ rfl
    rw [h]
    rfl
  next script hscript =>
    rw [hscript] at h
    exact engine.loads_runScript h s

theorem loads_load (source : ScriptSource) (s : Settings) : engine.Loads source s (engine.load s source) := by
  cases source with
  | text script => exact engine.loads_runScript rfl s
  | file store path => exact engine.loads_loadScript rfl s
  | user store home =>
    unfold load loadUserScript
    dsimp only
    split
    next hexists =>
      have htext : (ScriptSource.user store home).text?
          = (store.readText (Settings.scriptPath home)).toOption := if_pos hexists
      -- The report has one more event in its log, and the same result and settings.
      cases engine.loads_loadScript htext s with
      | unrun hnone hsettings => exact .unrun hnone hsettings
      | run effects hsome hresult hsettings => exact .run effects hsome hresult hsettings
    next hmissing =>
      have htext : (ScriptSource.user store home).text? = none := if_neg hmissing
      refine .unrun ?_ rfl
      rw [htext]
      rfl

theorem settings_load (source : ScriptSource) (s : Settings)
    : (engine.load s source).settings = (engine.accepted s source).foldl SettingsCall.apply s := by
  unfold accepted
  cases engine.loads_load source s with
  | unrun hnone hsettings =>
    rw [hnone, hsettings]
    rfl
  | run effects hsome hresult hsettings =>
    rw [hsome, hsettings]
    exact effects.settings_run s

theorem accepted_of_not_run {s : Settings} {e : ScriptError} (h : (engine.load s source).result = .error e)
    (he : ∀ message, e ≠ .eval message)
    : engine.accepted s source = [] := by
  unfold accepted
  cases engine.loads_load source s with
  | unrun hnone hsettings => rw [hnone]
  | run effects hsome hresult hsettings =>
    rw [hresult] at h
    cases hvalue : (effects.run s).value with
    | ok u =>
      rw [hvalue] at h
      cases h
    | error message =>
      rw [hvalue] at h
      cases h
      exact absurd rfl (he message)

theorem accepted_of_mem {s : Settings} {c : SettingsCall} (h : c ∈ engine.accepted s source) : c.Accepted := by
  unfold accepted at h
  split at h
  next => cases h
  next effects heffects => exact effects.accepted_of_mem h

theorem same_load (source : ScriptSource) (s : Settings) (f : Settings.Field)
    : f.Same ((SettingsCall.last? f (engine.accepted s source)).elim s (SettingsCall.apply s))
        (engine.load s source).settings := by
  rw [engine.settings_load]
  exact SettingsCall.same_foldl_apply f s _ fun c hc => engine.accepted_of_mem hc

theorem kept_iff_set_back (source : ScriptSource) (s : Settings)
    : (∀ e, (engine.load s source).result = .error e → (∀ message, e ≠ .eval message) →
        engine.accepted s source = [] ∧ (engine.load s source).settings = s) ∧
      (∀ f : Settings.Field,
        f.Same ((SettingsCall.last? f (engine.accepted s source)).elim s (SettingsCall.apply s))
          (engine.load s source).settings) ∧
      ((engine.load s source).settings = s ↔
        ∀ f, ∀ c ∈ SettingsCall.last? f (engine.accepted s source), (c.run s).2 = s) := by
  refine ⟨?_, engine.same_load source s, ?_⟩
  · intro e h he
    have hnone := engine.accepted_of_not_run h he
    refine ⟨hnone, ?_⟩
    rw [engine.settings_load, hnone]
    rfl
  · constructor
    · intro hkept f c hc
      have hf : c.field? = some f := by
        simpa using List.find?_some hc
      have hsame := engine.same_load source s f
      rw [hkept, Option.mem_def.mp hc] at hsame
      exact (SettingsCall.run_eq_self_iff hf).2 hsame.symm
    · intro hback
      apply Settings.eq_of_same
      intro f
      have hsame := engine.same_load source s f
      cases hlast : SettingsCall.last? f (engine.accepted s source) with
      | none =>
        rw [hlast] at hsame
        exact hsame
      | some c =>
        rw [hlast] at hsame
        have hc := hback f c hlast
        rw [Option.elim_some, SettingsCall.apply, hc] at hsame
        exact hsame

end Script.Engine

def ScriptSource.setBack : ScriptSource :=
  text "ocide::config::set_tab_width(8); ocide::config::set_tab_width(4); throw 0;"

theorem ScriptSource.load_setBack
    : Script.interpreter.accepted {} setBack = [.setTabWidth 8, .setTabWidth 4] ∧
        (Script.interpreter.load {} setBack).result.isOk = false ∧
        (Script.interpreter.load {} setBack).settings = {} := by
  have haccepted : Script.interpreter.accepted {} setBack = [.setTabWidth 8, .setTabWidth 4] := by
    decide +kernel
  refine ⟨haccepted, by decide +kernel, ?_⟩
  refine (Script.interpreter.kept_iff_set_back setBack {}).2.2.2 ?_
  rw [haccepted]
  intro f c hc
  cases f with
  | tabWidth =>
    cases hc
    rfl
  | _ => cases hc

def ScriptSource.halfBroken : ScriptSource :=
  let script := "ocide::config::set_theme(\"vs\");\nocide::config::set_theme(\"nord\");"
  user (FileStore.ofEntries [("home/.config/ocide/init.rhai", script.toUTF8)] []) "home"

theorem ScriptSource.load_halfBroken
    : (Script.interpreter.load {} halfBroken).result.isOk = false ∧
        (Script.interpreter.load {} halfBroken).settings = { theme := "vs" } ∧
        (Script.interpreter.load {} halfBroken).settings ≠ {} := by
  decide +kernel

end Workbench
