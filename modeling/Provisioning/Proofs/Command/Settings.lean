import Provisioning.Command.Settings
import Provisioning.Proofs.Command.Session
import Provisioning.Proofs.Settings.Store

/-!
# Stored settings are kept

The settings command shows stored settings, or changes them by a new file that takes the place of
the old one. So a failure leaves them as they are, whichever step it is in, and they can always be
removed, since that does not read them.

## Main definitions

* `SettingsAction.changes`: an action changes settings
* `SettingsAction.Keeps`: what the command may do to stored settings

## Main results

* `SettingsAction.keeps_run`: the command keeps to that
-/

namespace Provisioning

open SettingsFile Session

variable {σ ν : Type} [store : FileStore (StateM σ)] {view : FileView σ ν} {directory : String}
  {before after : σ} {f : SettingsFile} {action : SettingsAction}

/-! ## Loading and saving -/

/-- Settings are loaded or the run fails, and nothing changes. -/
theorem yields_loadSettings (view : FileView σ ν) (directory : String) (before : σ) :
    (∃ e, Yields (loadSettings directory) before (.error e) before) ∨
      ∃ s, load (m := StateM σ) directory before = (.ok ⟨directory, s⟩, before) ∧
        Yields (loadSettings directory) before (.ok ⟨directory, s⟩) before := by
  have hperform := yields_perform (load (m := StateM σ) directory) before
  rcases load_cases view directory before with ⟨e, hload⟩ | ⟨s, hload⟩
  · rw [hload] at hperform
    exact .inl ⟨_, hperform.bind (yields_require_error _ rfl before).bind_error⟩
  · rw [hload] at hperform
    exact .inr ⟨s, hload, hperform.bind ((yields_require_ok _ rfl before).bind
      ((yields_note _ before).bind (yields_pure _ before)))⟩

theorem yields_saveSettings {r : Except StoreError Unit}
    (h : f.save (m := StateM σ) before = (r, after)) :
    Yields (saveSettings f) before (r.mapError .ofStore) after := by
  have hperform := yields_perform (f.save (m := StateM σ)) before
  rw [h] at hperform
  cases r with
  | ok _ => exact hperform.bind (yields_require_ok _ rfl after)
  | error e => exact hperform.bind (yields_require_error _ rfl after)

namespace SettingsAction

/-- Whether an action changes settings. -/
def changes : SettingsAction → Bool
  | .set _ _ | .reset => true
  | .list | .get _ | .path => false

/-! ## Actions -/

/-- To show settings changes nothing, whatever it comes to. -/
theorem exists_yields_of_not_changes (view : FileView σ ν) (h : action.changes = false)
    (styled : Bool) (before : σ) : ∃ r, Yields (action.run styled directory) before r before := by
  cases action with
  | set key value => cases h
  | reset => cases h
  | path => exact ⟨_, yields_print _ before⟩
  | list =>
    rcases yields_loadSettings view directory before with ⟨e, hload⟩ | ⟨s, -, hload⟩
    · exact ⟨_, hload.bind_error⟩
    · exact ⟨_, hload.bind ((yields_notice _ _ _ before).bind (yields_print _ before))⟩
  | get key =>
    rcases yields_loadSettings view directory before with ⟨e, hload⟩ | ⟨s, -, hload⟩
    · exact ⟨_, hload.bind_error⟩
    · cases hget : s.get key with
      | error e => exact ⟨_, hload.bind (yields_require_error _ hget before).bind_error⟩
      | ok shown =>
        have hrequire := yields_require_ok CommandError.settings hget before
        cases shown with
        | some value => exact ⟨_, hload.bind (hrequire.bind (yields_print _ before))⟩
        | none => exact ⟨_, hload.bind (hrequire.bind (yields_notice _ _ _ before))⟩

/-- To set a setting fails and does not touch the settings, or replaces them by the updated ones. -/
theorem yields_set (h : Replaceable view directory) (styled : Bool) (key value : String)
    (before : σ) :
    (∃ e after, Yields (run styled directory (.set key value)) before (.error e) after ∧
        view.entryAt? (pathIn directory) after = view.entryAt? (pathIn directory) before) ∨
      ∃ s t text after, load (m := StateM σ) directory before = (.ok ⟨directory, s⟩, before) ∧
        s.set key value = .ok t ∧ t.toText? = some text ∧
        Replaced directory text.toUTF8 before after ∧
        Yields (run styled directory (.set key value)) before (.ok ()) after := by
  rcases yields_loadSettings view directory before with ⟨e, hrun⟩ | ⟨s, hload, hrun⟩
  · exact .inl ⟨_, _, hrun.bind_error, rfl⟩
  cases hset : s.set key value with
  | error e => exact .inl ⟨_, _, hrun.bind (yields_require_error _ hset before).bind_error, rfl⟩
  | ok t =>
    have hrequire := yields_require_ok CommandError.settings hset before
    cases htext : t.toText? with
    | none =>
      obtain ⟨e, hsave⟩ := save_of_toText?_eq_none (f := ⟨directory, t⟩) htext before
      exact .inl ⟨_, _, hrun.bind (hrequire.bind (yields_saveSettings hsave).bind_error), rfl⟩
    | some text =>
      rcases save_cases (f := ⟨directory, t⟩) h htext before with
        ⟨after, hreplaced, hsave⟩ | ⟨e, after, hsave, hkept⟩
      · exact .inr ⟨s, t, text, after, hload, hset, htext, hreplaced, hrun.bind (hrequire.bind
          ((yields_saveSettings hsave).bind (yields_notice _ _ _ after)))⟩
      · exact .inl ⟨_, _, hrun.bind (hrequire.bind (yields_saveSettings hsave).bind_error), hkept⟩

/-- To remove all settings succeeds if all steps of replacing them do, and else does not touch
them. -/
theorem yields_reset (h : Replaceable view directory) (styled : Bool) (before : σ) :
    (∃ after, Replaced directory "".toUTF8 before after ∧
        Yields (run styled directory .reset) before (.ok ()) after) ∨
      ∃ e after, Yields (run styled directory .reset) before (.error e) after ∧
        (∀ after', ¬ Replaced directory "".toUTF8 before after') ∧
        view.entryAt? (pathIn directory) after = view.entryAt? (pathIn directory) before := by
  have htext : (emptyIn directory).settings.toText? = some "" := rfl
  rcases save_cases (f := emptyIn directory) h htext before with
    ⟨after, hreplaced, hsave⟩ | ⟨e, after, hsave, hkept⟩
  · exact .inl ⟨after, hreplaced, (yields_saveSettings hsave).bind (yields_notice _ _ _ after)⟩
  · have hnot (after' : σ) : ¬ Replaced directory "".toUTF8 before after' := by
      intro hreplaced
      cases hsave.symm.trans (save_of_replaced view htext hreplaced)
    exact .inr ⟨_, after, (yields_saveSettings hsave).bind_error, hnot, hkept⟩

/-- What the command may do to the settings of a directory, from one state of the files to
another. -/
structure Keeps (view : FileView σ ν) (directory : String) (action : SettingsAction) (before : σ)
    (answer : Except CommandError Unit) (after : σ) : Prop where
  /-- To show settings changes no file. -/
  shown : action.changes = false → after = before
  /-- A failure does not touch the settings. -/
  failed : ∀ e, answer = .error e →
    view.entryAt? (pathIn directory) after = view.entryAt? (pathIn directory) before
  /-- A setting that is set has the value of the text, blanks around it aside, in the settings that
  are loaded from then on. Nothing else in them is changed, but all NaNs are taken for one. -/
  set : ∀ key value, action = .set key value → answer = .ok () →
    ∃ s t k v, load (m := StateM σ) directory before = (.ok ⟨directory, s⟩, before) ∧
      SettingKey.read? key = some k ∧ k.valueOf? (Text.trim value) = some v ∧
      Settings.Updated k v s t ∧
      load (m := StateM σ) directory after = (.ok ⟨directory, t.canonical⟩, after)
  /-- All settings are removed whenever the steps of replacing them by none succeed. -/
  reset : action = .reset → ∀ after', Replaced directory "".toUTF8 before after' →
    answer = .ok () ∧ after = after'
  /-- Then none are loaded from then on. -/
  removed : action = .reset → answer = .ok () →
    load (m := StateM σ) directory after = (.ok (emptyIn directory), after)

theorem keeps_of_not_changes (h : action.changes = false) (answer : Except CommandError Unit)
    (before : σ) : Keeps view directory action before answer before where
  shown _ := rfl
  failed _ _ := rfl
  set key value := by
    rintro rfl
    cases h
  reset := by
    rintro rfl
    cases h
  removed := by
    rintro rfl
    cases h

theorem keeps_of_error {e : CommandError} (hchanges : action.changes = true)
    (hreset : action = .reset → ∀ after', ¬ Replaced directory "".toUTF8 before after')
    (hkept : view.entryAt? (pathIn directory) after = view.entryAt? (pathIn directory) before) :
    Keeps view directory action before (.error e) after where
  shown h := absurd (hchanges.symm.trans h) (by decide)
  failed _ _ := hkept
  set _ _ _ h := by cases h
  reset haction after' hreplaced := absurd hreplaced (hreset haction after')
  removed _ h := by cases h

theorem keeps_set {key value : String} {s t : Settings} {k : SettingKey} {v : SettingValue}
    (hload : load (m := StateM σ) directory before = (.ok ⟨directory, s⟩, before))
    (hkey : SettingKey.read? key = some k) (hvalue : k.valueOf? (Text.trim value) = some v)
    (hupdated : Settings.Updated k v s t)
    (hload' : load (m := StateM σ) directory after = (.ok ⟨directory, t.canonical⟩, after)) :
    Keeps view directory (.set key value) before (.ok ()) after where
  shown h := by cases h
  failed _ h := by cases h
  set _ _ h _ := by
    cases h
    exact ⟨s, t, k, v, hload, hkey, hvalue, hupdated, hload'⟩
  reset h := by cases h
  removed h := by cases h

theorem keeps_reset (h : Replaceable view directory)
    (hreplaced : Replaced directory "".toUTF8 before after) :
    Keeps view directory .reset before (.ok ()) after where
  shown h := by cases h
  failed _ h := by cases h
  set _ _ h := by cases h
  reset _ after' hreplaced' := ⟨rfl, hreplaced.unique hreplaced'⟩
  removed _ _ := hreplaced.load h (s := {}) rfl

/-- **The settings command keeps what is stored**: showing it changes nothing, a failure does not
touch it whichever step it is in, setting a setting changes only that, and removing all never depends
on what is stored, since no file is read for it. -/
theorem keeps_run (h : Replaceable view directory) (styled : Bool) (action : SettingsAction)
    (before : σ) :
    Keeps view directory action before
        (transcript (m := StateM σ) (action.run styled directory) before).1.1
        (transcript (m := StateM σ) (action.run styled directory) before).2 ∧
      ∀ read, transcript (@run (StateM σ) _ { store with read } styled directory .reset) before =
        transcript (m := StateM σ) (run styled directory .reset) before := by
  -- The run of a removal does not mention the reading of a file.
  refine ⟨?_, fun _ => rfl⟩
  suffices hrun : ∃ r after, Yields (action.run styled directory) before r after ∧
      Keeps view directory action before r after by
    obtain ⟨r, after, hrun, hkeeps⟩ := hrun
    obtain ⟨t, ht⟩ := hrun.exists_transcript
    rw [ht]
    exact hkeeps
  cases hchanges : action.changes with
  | false =>
    obtain ⟨r, hrun⟩ := exists_yields_of_not_changes view hchanges styled before
    exact ⟨r, before, hrun, keeps_of_not_changes hchanges r before⟩
  | true =>
    cases action with
    | list | get key | path => cases hchanges
    | set key value =>
      rcases yields_set h styled key value before with
        ⟨e, after, hrun, hkept⟩ | ⟨s, t, text, after, hload, hset, htext, hreplaced, hrun⟩
      · exact ⟨_, after, hrun, keeps_of_error rfl (fun haction => by cases haction) hkept⟩
      · obtain ⟨k, v, hkey, hvalue, hupdated⟩ := Settings.updated_of_set hset
        exact ⟨_, after, hrun, keeps_set hload hkey hvalue hupdated (hreplaced.load h htext)⟩
    | reset =>
      rcases yields_reset h styled before with
        ⟨after, hreplaced, hrun⟩ | ⟨e, after, hrun, hnot, hkept⟩
      · exact ⟨_, after, hrun, keeps_reset h hreplaced⟩
      · exact ⟨_, after, hrun, keeps_of_error rfl (fun _ => hnot) hkept⟩

/-- Settings that cannot be read are not shown, but they can be removed. -/
theorem keeps_run_malformed :
    let files : FileTree := { work := .directory [("home", .directory
      [("config.toml", .file "poll = \"oops".toUTF8), ("config.tmp", .file "[".toUTF8)])] }
    let after := (transcript (m := StateM FileTree) (run false "home" .reset) files).2
    Replaceable FileTree.view "home" ∧
      (transcript (m := StateM FileTree) (run false "home" .list) files).1.1.toOption = none ∧
      (transcript (m := StateM FileTree) (run false "home" .reset) files).1.1 = .ok () ∧
      load (m := StateM FileTree) "home" after = (.ok (emptyIn "home"), after) := by
  intro files after
  have hplain : FileTree.Plain "home" ["home"] := ⟨by decide, by decide, by decide, by decide⟩
  have hkeeps := (keeps_run (replaceable_view hplain) false .reset files).1
  have hanswer : (transcript (m := StateM FileTree) (run false "home" .reset) files).1.1 = .ok () :=
    ok_of_toOption (by decide +kernel)
  exact ⟨replaceable_view hplain, by decide +kernel, hanswer, hkeeps.removed rfl hanswer⟩

end SettingsAction

end Provisioning
