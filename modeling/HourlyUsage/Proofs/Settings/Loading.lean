import HourlyUsage.Proofs.Settings.Origins
/-!
# Which settings are made

Settings are made in two steps. A draft has passed the checks of each setting; every finding about one
that has not bears the name of a setting. The draft is kept unless it is for production and its origins
have the wildcard among them. That finding bears no name, so it stands for this reason alone.

Sources: `AppSettings` with `parse_cors_origins` and `validate_production_configuration`.

Hypotheses: none; the environment, and the file in it, may hold anything.

Results:
* `draft_eq_ok`: the environment and the origins of a draft.
* `draft_bears_names`: the findings about a draft that failed.
* `origins_are_as_written`: the origins of the settings, and what the wildcard does.
-/
namespace HourlyUsage

open Validation StoreSettings

namespace Validation

/-- The way of a finding starts at a name out of these. -/
def Finding.BearsName (names : List Text) (f : Finding) : Prop :=
  ∃ name ∈ names, f.way.head? = some (.name name)

theorem Finding.bearsName_within {names : List Text} {name : Text} (h : name ∈ names)
    (f : Finding) : (f.within name).BearsName names :=
  ⟨name, h, rfl⟩

end Validation

namespace StoreSettings

variable {α : Type} {names : List Text} {name : Text}

theorem mem_findings_iff {r : Except (List Finding) α} {f : Finding} :
    f ∈ findings r ↔ ∃ fs, r = .error fs ∧ f ∈ fs := by
  cases r <;> simp [findings]

theorem bearsName_of_mapError {r : Except (List Finding) α} {f : Finding} (hname : name ∈ names)
    (h : f ∈ findings (r.mapError fun fs => fs.map (Finding.within name))) :
    f.BearsName names := by
  cases r with
  | ok x => cases h
  | error fs =>
    obtain ⟨f', -, rfl⟩ := List.mem_map.1 h
    exact f'.bearsName_within hname

theorem bearsName_of_setting {value? : Option Json} {standard : α}
    {check : Json → Except Problem α} {f : Finding} (hname : name ∈ names)
    (h : f ∈ findings (setting name value? standard check)) : f.BearsName names := by
  cases value? with
  | none => cases h
  | some v =>
    rw [setting] at h
    cases hchecked : check v with
    | ok x => rw [hchecked] at h; cases h
    | error p =>
      rw [hchecked] at h
      exact ⟨name, hname, by rw [List.mem_singleton.1 h]; rfl⟩

theorem bearsName_of_load {given : List (Text × Json)} {e : Environment} {f : Finding}
    (hpath : pathName ∈ names) (hsize : batchSizeName ∈ names) (h : f ∈ findings (load given e)) :
    f.BearsName names := by
  unfold load at h
  dsimp only at h
  split at h
  · cases h
  · exact (List.mem_append.1 h).elim (bearsName_of_setting hpath) (bearsName_of_setting hsize)

end StoreSettings

namespace AppSettings

def settingNames : List Text :=
  [text "HDFS_USAGE_ENV", text "HDFS_USAGE_PORT", text "HDFS_USAGE_LOG_LEVEL",
    text "HDFS_USAGE_LOG_FORMAT", originsName, storeName, pathName, batchSizeName]

theorem bearsName_of_checkStore {e : Environment} {v : Json} {f : Finding}
    (h : f ∈ findings (checkStore e v)) : f.BearsName settingNames := by
  have hname : storeName ∈ settingNames := by simp [settingNames]
  unfold checkStore at h
  split at h
  · exact bearsName_of_mapError hname h
  · exact ⟨storeName, hname, by rw [List.mem_singleton.1 h]; rfl⟩

theorem bearsName_of_originsSetting {e : Environment} {f : Finding}
    (h : f ∈ findings (originsSetting e)) : f.BearsName settingNames := by
  unfold originsSetting at h
  split at h
  · cases h
  · exact bearsName_of_mapError (by simp [settingNames]) h

theorem draftWith_eq_ok {e : Environment} {store? : Option Json} {s : AppSettings}
    (h : draftWith e store? = .ok s) :
    setting (text "HDFS_USAGE_ENV") ((e.value? (text "HDFS_USAGE_ENV")).map .str)
        standard.environment textOfJson = .ok s.environment ∧
      originsSetting e = .ok s.origins := by
  unfold draftWith at h
  dsimp only at h
  split at h
  · cases h
  · split at h
    · next henvironment _ _ _ horigins _ =>
      cases h
      exact ⟨henvironment, horigins⟩
    · cases h

theorem bearsName_of_standing {e : Environment} {f : Finding}
    (h : f ∈ findings (StoreSettings.load [] e)) : f.BearsName settingNames :=
  bearsName_of_load (by simp [settingNames]) (by simp [settingNames]) h

theorem draftWith_bears_names {e : Environment} {store? : Option Json} {fs : List Finding}
    (h : draftWith e store? = .error (.invalid fs)) : ∀ f ∈ fs, f.BearsName settingNames := by
  intro f hf
  unfold draftWith at h
  dsimp only at h
  split at h
  · next hstore =>
    cases h
    exact bearsName_of_standing (mem_findings_iff.2 ⟨fs, hstore, hf⟩)
  · split at h
    · cases h
    · cases h
      simp only [List.mem_append] at hf
      obtain ((((hf | hf) | hf) | hf) | hf) | hf := hf
      · exact bearsName_of_setting (by simp [settingNames]) hf
      · exact bearsName_of_setting (by simp [settingNames]) hf
      · exact bearsName_of_setting (by simp [settingNames]) hf
      · exact bearsName_of_setting (by simp [settingNames]) hf
      · exact bearsName_of_originsSetting hf
      · cases store? with
        | none => exact bearsName_of_standing hf
        | some v => exact bearsName_of_checkStore hf

theorem storeIn_eq_error {e : Environment} {source : Environment.Source} {x : LoadError}
    (h : storeIn e source = .error x) : ∃ fault, x = .unreadable storeName source fault := by
  unfold storeIn at h
  split at h
  · cases h
  · split at h
    · next fault _ =>
      cases h
      exact ⟨fault, rfl⟩
    all_goals cases h

/-- A draft fails early if the store's settings cannot be read; otherwise they are known. -/
theorem draft_cases (e : Environment) :
    (∃ source fault, draft e = .error (.unreadable storeName source fault)) ∨
      ∃ store?, draft e = draftWith e store? := by
  unfold draft
  split
  · next hprocess =>
    obtain ⟨fault, rfl⟩ := storeIn_eq_error hprocess
    exact .inl ⟨_, fault, rfl⟩
  · next hfile =>
    obtain ⟨fault, rfl⟩ := storeIn_eq_error hfile
    exact .inl ⟨_, fault, rfl⟩
  · exact .inr ⟨_, rfl⟩

/-- The environment and the origins of a draft are those set. -/
theorem draft_eq_ok {e : Environment} {s : AppSettings} (h : draft e = .ok s) :
    setting (text "HDFS_USAGE_ENV") ((e.value? (text "HDFS_USAGE_ENV")).map .str)
        standard.environment textOfJson = .ok s.environment ∧
      originsSetting e = .ok s.origins := by
  obtain ⟨source, fault, hfault⟩ | ⟨store?, hstore⟩ := draft_cases e
  · cases hfault.symm.trans h
  · exact draftWith_eq_ok (hstore.symm.trans h)

/-- The findings about a draft that failed bear names. -/
theorem draft_bears_names {e : Environment} {fs : List Finding}
    (h : draft e = .error (.invalid fs)) : ∀ f ∈ fs, f.BearsName settingNames := by
  obtain ⟨source, fault, hfault⟩ | ⟨store?, hstore⟩ := draft_cases e
  · cases hfault.symm.trans h
  · exact draftWith_bears_names (hstore.symm.trans h)

theorem environment_eq_production_iff {e : Environment} {s : AppSettings} (h : draft e = .ok s) :
    s.environment = production ↔ e.value? (text "HDFS_USAGE_ENV") = some production := by
  obtain ⟨henvironment, -⟩ := draft_eq_ok h
  cases hvalue : e.value? (text "HDFS_USAGE_ENV") with
  | none =>
    rw [hvalue] at henvironment
    rw [← Except.ok.inj henvironment]
    exact ⟨fun h => absurd h (by decide), nofun⟩
  | some t =>
    rw [hvalue] at henvironment
    obtain ⟨heq, -⟩ := textOfJson_eq_ok_iff.1 (mapError_eq_ok_iff.1 henvironment)
    cases heq
    rw [Option.some.injEq]

/-! ## The wildcard -/

/-- The settings are for production and have the wildcard among their origins. -/
def OpenInProduction (s : AppSettings) : Prop :=
  s.environment = production ∧ s.origins.Matches Origins.wildcard

theorem openInProduction_iff {s : AppSettings} :
    (s.environment = production && s.origins.contains Origins.wildcard) = true ↔
      s.OpenInProduction := by
  rw [Bool.and_eq_true, decide_eq_true_iff, Origins.contains_iff, OpenInProduction]

theorem checkTogether_of_open {s : AppSettings} (h : s.OpenInProduction) :
    checkTogether s = .error (.invalid [⟨[], .rule wildcardMessage⟩]) :=
  if_pos (openInProduction_iff.2 h)

theorem checkTogether_of_not_open {s : AppSettings} (h : ¬ s.OpenInProduction) :
    checkTogether s = .ok s :=
  if_neg fun hopen => h (openInProduction_iff.1 hopen)

theorem load_eq_ok_iff {e : Environment} {s : AppSettings} :
    load e = .ok s ↔ draft e = .ok s ∧ ¬ s.OpenInProduction := by
  unfold load
  cases draft e with
  | error x => exact ⟨nofun, fun h => nomatch h.1⟩
  | ok s' =>
    dsimp only
    by_cases hopen : s'.OpenInProduction
    · rw [checkTogether_of_open hopen]
      refine ⟨nofun, ?_⟩
      rintro ⟨heq, hnot⟩
      cases heq
      exact absurd hopen hnot
    · rw [checkTogether_of_not_open hopen, iff_self_and]
      intro heq
      cases heq
      exact hopen

/-- The settings fail on account of the wildcard exactly if there is a draft that has it. -/
theorem load_eq_wildcard_iff {e : Environment} :
    load e = .error (.invalid [⟨[], .rule wildcardMessage⟩]) ↔
      ∃ s, draft e = .ok s ∧ s.OpenInProduction := by
  unfold load
  cases hdraft : draft e with
  | error x =>
    refine ⟨?_, ?_⟩
    · -- the finding about the wildcard bears no name
      intro h
      rw [Except.error.inj h] at hdraft
      obtain ⟨name, -, hname⟩ := draft_bears_names hdraft _ List.mem_cons_self
      cases hname
    · rintro ⟨s, h, -⟩
      cases h
  | ok s =>
    dsimp only
    by_cases hopen : s.OpenInProduction
    · exact iff_of_true (checkTogether_of_open hopen) ⟨s, rfl, hopen⟩
    · rw [checkTogether_of_not_open hopen]
      refine ⟨nofun, ?_⟩
      rintro ⟨s', heq, hopen'⟩
      cases heq
      exact absurd hopen' hopen

/-! ## The origins -/

/-- The origins of a draft are what their text stands for, and nothing else is. -/
theorem draft_denotes {e : Environment} {s : AppSettings} {t : Text} (h : draft e = .ok s)
    (ht : originsText? e = some t) :
    Denotes t s.origins ∧ ∀ o, Denotes t o → s.origins = o := by
  obtain ⟨hnone, -⟩ | ⟨t', ht', hdenotes, -⟩ := originsSetting_eq_ok_iff.1 (draft_eq_ok h).2
  · cases hnone.symm.trans ht
  · cases ht'.symm.trans ht
    obtain ⟨v, hv⟩ := jsonOrText_originsText ht
    exact ⟨hdenotes, fun o => Denotes.unique hv hdenotes⟩

/-- **The origins are those that their text names**, in all settings that are made and in those that
fail for the wildcard alone. They are the pieces between the commas of a text that is no JSON, the
items of an array of texts, and the same for such a text in quotation marks. One text is left in
place of a list exactly where a JSON text has a JSON text in it; then an origin counts as among the
origins if it occurs in that text, and so does the wildcard. Settings are refused for the wildcard
exactly if they are for production and it is among the origins. -/
theorem origins_are_as_written (e : Environment) :
    (∀ s, draft e = .ok s →
      (originsText? e = none → s.origins = .list [text "http://localhost:5151"]) ∧
      (∀ t, originsText? e = some t →
        (∀ fault, Json.parse t = .error fault →
          ∃ origins, IsPieces t origins ∧ s.origins = .list origins) ∧
        (∀ origins, Json.parse t = .ok (.arr (origins.map .str)) → s.origins = .list origins) ∧
        (∀ inner origins, Json.parse t = .ok (.str inner) → Spells inner origins →
          s.origins = .list origins) ∧
        ∀ origin, s.origins = .single origin ↔
          ∃ inner, Json.parse t = .ok (.str inner) ∧ Json.parse inner = .ok (.str origin)) ∧
      ∀ origin, s.origins.contains origin = true ↔ s.origins.Matches origin) ∧
    (∀ s, load e = .ok s ↔
      draft e = .ok s ∧ ¬ (e.value? (text "HDFS_USAGE_ENV") = some production ∧
        s.origins.Matches Origins.wildcard)) ∧
    (load e = .error (.invalid [⟨[], .rule wildcardMessage⟩]) ↔
      e.value? (text "HDFS_USAGE_ENV") = some production ∧
        ∃ s, draft e = .ok s ∧ s.origins.Matches Origins.wildcard) := by
  have hopen : ∀ {s}, draft e = .ok s → (s.OpenInProduction ↔
      e.value? (text "HDFS_USAGE_ENV") = some production ∧
        s.origins.Matches Origins.wildcard) :=
    fun h => and_congr_left fun _ => environment_eq_production_iff h
  refine ⟨fun s h => ⟨fun hnone => ?standing, fun t ht => ?given, fun _ => Origins.contains_iff⟩,
    fun s => ?made, ?refused⟩
  case standing =>
    obtain ⟨-, horigins⟩ | ⟨t, ht, -⟩ := originsSetting_eq_ok_iff.1 (draft_eq_ok h).2
    · exact horigins
    · cases hnone.symm.trans ht
  case given =>
    obtain ⟨hdenotes, honly⟩ := draft_denotes h ht
    refine ⟨fun fault => hdenotes.of_error, fun origins h => honly _ (.plain (.array h)),
      fun inner origins h h' => honly _ (.quoted h h'), fun origin => ?_⟩
    rw [← denotes_single_iff]
    exact ⟨fun hsingle => hsingle ▸ hdenotes, honly _⟩
  case made =>
    rw [load_eq_ok_iff]
    exact and_congr_right fun h => not_congr (hopen h)
  case refused =>
    rw [load_eq_wildcard_iff]
    constructor
    · rintro ⟨s, h, hs⟩
      obtain ⟨hproduction, hmatches⟩ := (hopen h).1 hs
      exact ⟨hproduction, s, h, hmatches⟩
    · rintro ⟨hproduction, s, h, hmatches⟩
      exact ⟨s, h, (hopen h).2 ⟨hproduction, hmatches⟩⟩

example : load ⟨[(text "CORS_ORIGINS", text " http://a, ,http://b ")], []⟩ =
    .ok { standard with origins := .list [text "http://a", text "http://b"] } := by
  decide +kernel

/-- Settings can be made whose origins are no list. -/
theorem origins_need_not_be_a_list :
    ¬ ∀ e s, load e = .ok s → ∃ origins, s.origins = .list origins := by
  intro h
  have hmade : load ⟨[(text "CORS_ORIGINS", text "\"\\\"http://*.x\\\"\"")], []⟩ =
      .ok { standard with origins := .single (text "http://*.x") } := by decide +kernel
  obtain ⟨origins, horigins⟩ := h _ _ hmade
  cases horigins

end AppSettings

end HourlyUsage
