import Mathlib.Logic.Relation
import Workbench.Proofs.Script.Settings

/-!
Which settings scripts can leave behind. The settings of a fresh start are valid, every accepted call keeps them so and
changes one of them at most, and a refused call changes nothing. So they are valid after any scripts, wherever these
have failed.
-/

namespace Workbench

namespace Settings

structure Valid (s : Settings) : Prop where
  theme : ∃ t, Theme.find? s.theme = some t ∧ t.name = s.theme
  tabWidth : 1 ≤ s.tabWidth ∧ s.tabWidth ≤ 16
  runTimeout : ∀ n, s.runTimeout? = some n → 1 ≤ n ∧ n < 0x8000000000000000
  serviceUrl : s.serviceUrl ≠ ""
  serviceUrl_head : ∀ c ∈ s.serviceUrl.toList.head?, Unicode.isWhiteSpace c = false
  serviceUrl_last : ∀ c ∈ s.serviceUrl.toList.getLast?, c ≠ '/'

theorem valid_default : Valid {} where
  theme := ⟨Theme.dark, rfl, rfl⟩
  tabWidth := by decide
  runTimeout := by
    intro n h
    contradiction
  serviceUrl := by decide
  serviceUrl_head := by
    intro c hc
    cases hc
    decide
  serviceUrl_last := by
    intro c hc
    cases hc
    decide

abbrev Leads : Settings → Settings → Prop :=
  Relation.ReflTransGen fun s s' => ∃ c : SettingsCall, s' = (c.run s).2

end Settings

namespace SettingsCall

variable {s : Settings}

theorem ends_of_address {url address : String} (h : Text.dropTrailingSlashes (Text.trimString url) = address)
    : (∀ c ∈ address.toList.head?, Unicode.isWhiteSpace c = false) ∧ ∀ c ∈ address.toList.getLast?, c ≠ '/' := by
  have htoList : address.toList = Text.dropTrailing (· == '/') (Text.trim url.toList) := by
    rw [← h]
    unfold Text.dropTrailingSlashes Text.trimString
    rw [String.toList_ofList, String.toList_ofList]
  rw [htoList]
  constructor
  · intro c hc
    exact Text.head?_trim (Text.head?_dropTrailing hc)
  · rintro c hc rfl
    have hnot := Text.getLast?_dropTrailing hc
    contradiction

theorem valid_run (c : SettingsCall) (hs : s.Valid) : (c.run s).2.Valid := by
  cases c with
  | getTheme | listThemes | getServiceUrl => exact hs
  | setShowLineNumbers enabled | setShowFunctions enabled => exact { hs with }
  | setTabWidth width =>
    refine { hs with tabWidth := ?_ }
    simp only [run]
    omega
  | setRunTimeout seconds =>
    refine { hs with runTimeout := ?_ }
    intro n hn
    simp only [run] at hn
    split at hn
    next hpos =>
      cases hn
      have hlt := seconds.toInt_lt
      rw [Int64.lt_iff_toInt_lt, Int64.toInt_zero] at hpos
      omega
    next => contradiction
  | setTheme name =>
    simp only [run]
    split
    next => exact hs
    next hsome =>
      cases hfound : Theme.find? name with
      | none =>
        rw [hfound] at hsome
        exact absurd rfl hsome
      | some t =>
        have hname : t.name = name := by
          simpa using List.find?_some hfound
        exact { hs with theme := ⟨t, hfound, hname⟩ }
  | setServiceUrl url =>
    simp only [run]
    split
    next => exact hs
    next hne =>
      generalize hurl : Text.dropTrailingSlashes (Text.trimString url) = address at hne
      obtain ⟨hhead, hlast⟩ := ends_of_address hurl
      have hempty : address ≠ "" := by
        rintro rfl
        exact hne rfl
      exact { hs with serviceUrl := hempty, serviceUrl_head := hhead, serviceUrl_last := hlast }
  | setLogLevel name =>
    simp only [run]
    split
    next => exact hs
    next => exact { hs with }

end SettingsCall

namespace Settings.Leads

variable {s s' : Settings}

theorem foldl_apply (calls : List SettingsCall) (s : Settings)
    : Settings.Leads s (calls.foldl SettingsCall.apply s) := by
  induction calls generalizing s with
  | nil => exact .refl
  | cons c calls ih => exact .head ⟨c, rfl⟩ (ih _)

theorem valid (h : Leads s s') (hs : s.Valid) : s'.Valid := by
  induction h with
  | refl => exact hs
  | tail _ hstep ih =>
    obtain ⟨c, rfl⟩ := hstep
    exact c.valid_run ih

end Settings.Leads

namespace Script

/-- The settings after some scripts, one after the other, each of them run by an engine of its own. -/
def loadAll (s : Settings) (loads : List (Engine × ScriptSource)) : Settings :=
  loads.foldl (fun s l => (l.1.load s l.2).settings) s

theorem leads_loadAll (loads : List (Engine × ScriptSource)) (s : Settings)
    : Settings.Leads s (loadAll s loads) := by
  induction loads generalizing s with
  | nil => exact .refl
  | cons l loads ih =>
    have hfirst : Settings.Leads s (l.1.load s l.2).settings := by
      rw [l.1.settings_load]
      exact .foldl_apply _ s
    exact hfirst.trans (ih _)

theorem valid_after_scripts
    : (∀ loads, (loadAll {} loads).Valid) ∧
      (∀ s, Settings.Leads {} s → s.Valid) ∧
      ∀ (c : SettingsCall) (s : Settings),
        Settings.SameBesides c.field? s (c.run s).2 ∧ ((c.run s).1.isOk = false → (c.run s).2 = s) := by
  refine ⟨?_, ?_, ?_⟩
  · intro loads
    exact (leads_loadAll loads {}).valid Settings.valid_default
  · intro s h
    exact h.valid Settings.valid_default
  · intro c s
    exact ⟨c.sameBesides_run s, c.run_of_refused⟩

def mixedLoads : List (Engine × ScriptSource) := [
  (interpreter, .text "ocide::config::set_tab_width(100); ocide::config::set_theme(\"nord\");"),
  (interpreter, .text "for i in 0..3 \x7b ocide::config::set_run_timeout(i - 7); \x7d throw 0;"),
  (interpreter, .text "unknown(ocide::config::set_show_functions(false));"),
  (interpreter, .text "ocide::config::set_service_url(\" http://runner:9000// \");")]

theorem valid_mixedLoads
    : (loadAll {} mixedLoads).Valid ∧
        loadAll {} mixedLoads
          = { tabWidth := 16, showFunctions := false, serviceUrl := "http://runner:9000" } := by
  refine ⟨valid_after_scripts.1 mixedLoads, ?_⟩
  decide +kernel

end Script

end Workbench
